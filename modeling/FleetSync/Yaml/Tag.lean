import FleetSync.Text.Utf8
import FleetSync.Yaml.Quoted

/-!
# Tags

A tag names the kind of a value. It is written in full between angle brackets, or as a handle, which
stands for the front of the tag, and a suffix. A tag is bytes, for escapes may spell any; a zero
byte ends it. Lines that start with a percent sign give a document's version and its handles.
-/
namespace FleetSync.Yaml

abbrev TagBytes := List UInt8

namespace TagBytes

/-- What stands before a zero byte. -/
def untilZero (bytes : TagBytes) : TagBytes := bytes.takeWhile (· ≠ 0)

/-- A character of tags, apart from the percent sign. Commas and brackets are only allowed where
they cannot end a value. -/
def isTagChar (isEnclosed : Bool) (c : Char) : Bool :=
  isWordChar c || ";/?:@&=+$.!~*'()".contains c || (isEnclosed && ",[]".contains c)

def escapedByte? : List Glyph → Option (Nat × List Glyph)
  | p :: a :: b :: rest =>
    if p.char = '%' then do
      return ((← Quoted.hexValue? a.char) * 16 + (← Quoted.hexValue? b.char), rest)
    else none
  | _ => none

/-- How many bytes follow the first one of a character. -/
def following? (first : Nat) : Option Nat :=
  if first < 0x80 then some 0
  else if first / 32 = 6 then some 1
  else if first / 16 = 14 then some 2
  else if first / 8 = 30 then some 3
  else none

/-- So many escaped bytes that go on with a character. -/
def continued? : Nat → List Glyph → Option (TagBytes × List Glyph)
  | 0, gs => some ([], gs)
  | n + 1, gs => do
    let (byte, rest) ← escapedByte? gs
    if byte / 64 = 2 then
      let (bytes, rest) ← continued? n rest
      return (byte.toUInt8 :: bytes, rest)
    else none

def escaped? (gs : List Glyph) : Option (TagBytes × List Glyph) := do
  let (first, rest) ← escapedByte? gs
  let (bytes, rest) ← continued? (← following? first) rest
  return (first.toUInt8 :: bytes, rest)

/-- The bytes up to the first character that no tag has. -/
def scan? (isEnclosed : Bool) : Nat → List Glyph → Option (TagBytes × List Glyph)
  | 0, _ => none
  | _, [] => some ([], [])
  | fuel + 1, g :: rest =>
    if g.char = '%' then do
      let (bytes, rest) ← escaped? (g :: rest)
      let (more, rest) ← scan? isEnclosed fuel rest
      return (bytes ++ more, rest)
    else if isTagChar isEnclosed g.char then do
      let (more, rest) ← scan? isEnclosed fuel rest
      return (g.char.toNat.toUInt8 :: more, rest)
    else some ([], g :: rest)

/-- A part of a tag up to its end or to a zero byte, and the rest. -/
def read? (isEnclosed mayBeEmpty : Bool) (gs : List Glyph) : Option (TagBytes × List Glyph) := do
  let size := (gs.takeWhile fun g => !isGap g.char).length
  let (bytes, rest) ← scan? isEnclosed (size + 1) gs
  if bytes.isEmpty && !mayBeEmpty then none else some (bytes.untilZero, rest)

end TagBytes

inductive Tag where
  | full (bytes : TagBytes)
  | short (handle : String) (suffix : TagBytes)
  deriving DecidableEq, Repr, Inhabited

namespace Tag

/-- The tag of no kind in particular. -/
def unspecific : TagBytes := Text.toUtf8 "!"

/-- A handle: an exclamation mark, or a word between two of them. -/
def handle? : List Glyph → Option (String × List Glyph)
  | [] => none
  | g :: rest =>
    let (word, after) := Glyph.spanChars isWordChar rest
    if g.char ≠ '!' then none
    else if Glyph.startWith ['!'] after then
      some (String.ofList ('!' :: word ++ ['!']), after.drop 1)
    else if word.isEmpty then some ("!", rest)
    else none

/-- The tag whose exclamation mark comes next, and the rest. -/
def tag? (gs : List Glyph) : Option (Tag × List Glyph) :=
  if Glyph.startWith ['!', '<'] gs then do
    let (bytes, rest) ← TagBytes.read? true false (gs.drop 2)
    if Glyph.startWith ['>'] rest then some (full bytes, rest.drop 1) else none
  else
    match handle? gs with
    | some (handle, rest) =>
      if handle = "!" then
        (TagBytes.read? false true rest).map fun r =>
          (if r.1.isEmpty then full unspecific else short "!" r.1, r.2)
      else (TagBytes.read? false false rest).map fun r => (short handle r.1, r.2)
    | none => (TagBytes.read? false true (gs.drop 1)).map fun r => (short "!" r.1, r.2)

/-- The tag, behind which a gap follows or, between brackets, a comma. -/
def read? (inFlow : Bool) (gs : List Glyph) : Option (Tag × List Glyph) := do
  let (tag, rest) ← tag? gs
  if Glyph.startsGap rest || (inFlow && Glyph.startWith [','] rest) then some (tag, rest) else none

abbrev Handles := List (String × TagBytes)

def defaultHandles : Handles := [("!", unspecific), ("!!", Text.toUtf8 "tag:yaml.org,2002:")]

/-- The tag in full. Declared handles come before the default ones. -/
def bytes? (handles : Handles) : Tag → Option TagBytes
  | full bytes => some bytes
  | short handle suffix => ((handles ++ defaultHandles).lookup handle).map (· ++ suffix)

end Tag

inductive Directive where
  | version (major minor : Nat)
  | handle (name : String) (front : TagBytes)
  deriving DecidableEq, Repr, Inhabited

namespace Directive

def number? (gs : List Glyph) : Option (Nat × List Glyph) :=
  let (digits, rest) := Glyph.spanChars Char.isDigit gs
  if digits.isEmpty ∨ 9 < digits.length then none
  else some (digits.foldl (fun n c => n * 10 + (c.toNat - '0'.toNat)) 0, rest)

def version? (gs : List Glyph) : Option (Directive × List Glyph) := do
  let (major, rest) ← number? (Glyph.dropBlanks gs)
  if Glyph.startWith ['.'] rest then
    let (minor, rest) ← number? (rest.drop 1)
    return (version major minor, rest)
  else none

def declaration? (gs : List Glyph) : Option (Directive × List Glyph) := do
  let (name, rest) ← Tag.handle? (Glyph.dropBlanks gs)
  if rest.head?.any fun g => isBlank g.char then
    let (front, rest) ← TagBytes.read? true false (Glyph.dropBlanks rest)
    if Glyph.startsGap rest then return (handle name front, rest) else none
  else none

/-- The directive whose percent sign has been passed, and the lines below it. -/
def read? (gs : List Glyph) : Option (Directive × List Glyph) := do
  let (name, rest) := Glyph.spanChars isWordChar gs
  if !Glyph.startsGap rest then none
  else
    let (directive, rest) ←
      if name = "YAML".toList then version? rest
      else if name = "TAG".toList then declaration? rest
      else none
    return (directive, ← Glyph.nextLine? rest)

end Directive

end FleetSync.Yaml
