import FleetSync.Yaml.Glyph

/-!
# Texts in blocks

The lines below a bar or an angle bracket, as far as they stand at one column, are a text. After a
bar the lines keep their ends; after an angle bracket they are folded, except around lines that
start with a blank. A sign tells what becomes of the ends of lines behind the text, and a digit how
far it is indented.
-/
namespace FleetSync.Yaml.Block

/-- What stays of the ends of lines behind the text. -/
inductive Tail where
  /-- The end of the text's last line. -/
  | clip
  | keep
  | strip
  deriving DecidableEq, Repr, Inhabited

structure Header where
  tail : Tail
  /-- The indentation below the block that the text belongs to. -/
  increment : Option Nat
  deriving DecidableEq, Repr, Inhabited

def tail? (c : Char) : Option Tail :=
  if c = '+' then some .keep else if c = '-' then some .strip else none

def digit? (c : Char) : Option Nat := if c.isDigit then some (c.toNat - '0'.toNat) else none

/-- The sign and the digit, in any order, behind the mark of a text; the digit is not zero. -/
def header? (gs : List Glyph) : Option (Header × List Glyph) :=
  let sign (gs : List Glyph) := (gs.head?.bind fun g => tail? g.char)
  let number (gs : List Glyph) := (gs.head?.bind fun g => digit? g.char)
  let (header, rest) : Header × List Glyph :=
    match sign gs, number gs with
    | some tail, _ =>
      match number (gs.drop 1) with
      | some n => (⟨tail, some n⟩, gs.drop 2)
      | none => (⟨tail, none⟩, gs.drop 1)
    | none, some n =>
      match sign (gs.drop 1) with
      | some tail => (⟨tail, some n⟩, gs.drop 2)
      | none => (⟨.clip, some n⟩, gs.drop 1)
    | none, none => (⟨.clip, none⟩, gs)
  if header.increment = some 0 then none else (Glyph.nextLine? rest).map fun rest => (header, rest)

/-- The empty lines at the front: the greatest column at which one of them or the next line starts,
their ends, in reverse, and the rest. No tabulator may indent a line. Without an indentation all
blanks are passed over, else only those before its column. -/
def emptyLines? (indent : Option Nat) :
    Nat → List Char → List Glyph → Option (Nat × List Char × List Glyph)
  | widest, ends, [] => some (widest, ends, [])
  | widest, ends, g :: rest =>
    let isIndenting := indent.all (g.column < ·)
    if isIndenting && g.char == ' ' then emptyLines? indent widest ends rest
    else if isIndenting && g.char == '\t' then none
    else if isBreak g.char then emptyLines? indent (max widest g.column) (g.char :: ends) rest
    else some (max widest g.column, ends, g :: rest)

structure Draft where
  text : List Char
  /-- The end of the last line. -/
  lineEnd : List Char
  /-- The ends of the empty lines behind it, in reverse. -/
  emptyEnds : List Char
  /-- The last line starts with a blank. -/
  isIndented : Bool
  deriving DecidableEq, Repr, Inhabited

/-- The text up to a line that starts with a blank or not. -/
def Draft.joined (d : Draft) (folded startsBlank : Bool) : List Char :=
  if folded && d.lineEnd == ['\n'] && !d.isIndented && !startsBlank then
    (if d.emptyEnds.isEmpty then [' '] else d.emptyEnds) ++ d.text
  else d.emptyEnds ++ d.lineEnd ++ d.text

def lines? (folded : Bool) (column : Nat) : Nat → Draft → List Glyph → Option (Draft × List Glyph)
  | 0, _, _ => none
  | _, d, [] => some (d, [])
  | fuel + 1, d, g :: rest =>
    if g.column = column ∧ g.char ≠ endMark then do
      let startsBlank := isBlank g.char
      let (line, below) := Glyph.spanChars (fun c => !(isBreak c || c == endMark)) (g :: rest)
      let (lineEnd, below) := match below with
        | h :: after => if isBreak h.char then ([h.char], after) else ([], below)
        | [] => ([], [])
      let (_, ends, below) ← emptyLines? (some column) 0 [] below
      lines? folded column fuel
        ⟨line.reverse ++ d.joined folded startsBlank, lineEnd, ends, startsBlank⟩ below
    else some (d, g :: rest)

/-- The text with what stays of the ends of lines behind it. -/
def Draft.finish (d : Draft) : Tail → List Char
  | .strip => d.text.reverse
  | .clip => (d.lineEnd ++ d.text).reverse
  | .keep => (d.emptyEnds ++ d.lineEnd ++ d.text).reverse

/-- The text whose mark has been passed, and the rest. A block's contents stand at the column
`margin` or to the right of it. There are no more than `steps` characters. -/
def read? (folded : Bool) (margin steps : Nat) (gs : List Glyph) :
    Option (String × List Glyph) := do
  let (header, rest) ← header? gs
  let indent := header.increment.map (margin - 1 + ·)
  let (widest, ends, rest) ← emptyLines? indent 0 [] rest
  let column := indent.getD (max (max widest margin) 1)
  let (d, rest) ← lines? folded column (steps + 1) ⟨[], [], ends, false⟩ rest
  return (String.ofList (d.finish header.tail), rest)

end FleetSync.Yaml.Block
