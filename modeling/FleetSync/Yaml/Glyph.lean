/-!
# Characters in their places

A YAML text is read as a list of characters that know where they stand, for the column of a
character decides what it belongs to. The three ways to end a line that ASCII has, and the next-line
character, are one; the two separators of Unicode end lines as well and keep their identity. An end
mark stands behind the last character.
-/
namespace FleetSync.Yaml

structure Glyph where
  char : Char
  /-- The number of characters before it. -/
  index : Nat
  line : Nat
  column : Nat
  deriving DecidableEq, Repr, Inhabited

/-- The mark at the end of a text; no text may hold it. -/
def endMark : Char := '\x00'

def isAllowed (c : Char) : Bool :=
  let n := c.toNat
  n == 0x9 || n == 0xA || n == 0xD || (0x20 ≤ n && n ≤ 0x7E) || n == 0x85 ||
    (0xA0 ≤ n && n ≤ 0xD7FF) || (0xE000 ≤ n && n ≤ 0xFFFD) || 0x10000 ≤ n

/-- A character that ends a line, after those that are one with the line feed. -/
def isBreak (c : Char) : Bool := c == '\n' || c == '\u2028' || c == '\u2029'

def isBlank (c : Char) : Bool := c == ' ' || c == '\t'

def isGap (c : Char) : Bool := isBlank c || isBreak c || c == endMark

/-- A character of names: of anchors, handles and directives. -/
def isWordChar (c : Char) : Bool := c.isAlphanum || c == '_' || c == '-'

namespace Glyph

def locate (index line column : Nat) : List Char → List Glyph
  | [] => [⟨endMark, index, line, column⟩]
  | '\r' :: '\n' :: rest => ⟨'\n', index, line, column⟩ :: locate (index + 2) (line + 1) 0 rest
  | c :: rest =>
    let c := if c = '\r' ∨ c = '\x85' then '\n' else c
    if isBreak c then ⟨c, index, line, column⟩ :: locate (index + 1) (line + 1) 0 rest
    else ⟨c, index, line, column⟩ :: locate (index + 1) line (column + 1) rest

/-- The characters of a text, if it may hold all of them. -/
def ofText? (text : String) : Option (List Glyph) :=
  if text.toList.all isAllowed then some (locate 0 0 0 text.toList) else none

/-- The next character stands between words, or there is none. -/
def startsGap : List Glyph → Bool
  | [] => true
  | g :: _ => isGap g.char

def startWith (cs : List Char) (gs : List Glyph) : Bool := (gs.take cs.length).map char == cs

/-- A line starts with three of a mark that stand alone. -/
def startsMarker (c : Char) (gs : List Glyph) : Bool :=
  (gs.head?.any (·.column = 0)) && startWith [c, c, c] gs && startsGap (gs.drop 3)

def startsBoundary (gs : List Glyph) : Bool := startsMarker '-' gs || startsMarker '.' gs

/-- The characters at the front with a property, and the rest. -/
def spanChars (f : Char → Bool) (gs : List Glyph) : List Char × List Glyph :=
  ((gs.takeWhile fun g => f g.char).map char, gs.dropWhile fun g => f g.char)

def dropBlanks (gs : List Glyph) : List Glyph := gs.dropWhile fun g => isBlank g.char

def dropToBreak (gs : List Glyph) : List Glyph :=
  gs.dropWhile fun g => !(isBreak g.char || g.char == endMark)

/-- The next line, if nothing but a comment stands before it; the end mark is not passed. -/
def nextLine? (gs : List Glyph) : Option (List Glyph) :=
  let rest := dropBlanks gs
  let rest := if startWith ['#'] rest then dropToBreak rest else rest
  match rest with
  | [] => some []
  | g :: below =>
    if isBreak g.char then some below else if g.char = endMark then some rest else none

end Glyph

end FleetSync.Yaml
