import FleetSync.Yaml.Gap

/-!
# Texts in quotes

Between single quotes only a quote is special: it is written twice. Between double quotes a
backslash starts an escape, and one at the end of a line keeps the lines together without a blank.
-/
namespace FleetSync.Yaml.Quoted

inductive Escape where
  | char (c : Char)
  /-- A code point in so many hexadecimal digits. -/
  | digits (count : Nat)
  deriving DecidableEq, Repr

def escapes : List (Char × Escape) :=
  [('0', .char '\x00'), ('a', .char '\x07'), ('b', .char '\x08'), ('t', .char '\t'),
    ('\t', .char '\t'), ('n', .char '\n'), ('v', .char '\x0b'), ('f', .char '\x0c'),
    ('r', .char '\r'), ('e', .char '\x1b'), (' ', .char ' '), ('"', .char '"'), ('/', .char '/'),
    ('\\', .char '\\'), ('N', .char '\x85'), ('_', .char '\xa0'), ('L', .char '\u2028'),
    ('P', .char '\u2029'), ('x', .digits 2), ('u', .digits 4), ('U', .digits 8)]

def hexValue? (c : Char) : Option Nat :=
  if c.isDigit then some (c.toNat - '0'.toNat)
  else if 'a' ≤ c ∧ c ≤ 'f' then some (c.toNat - 'a'.toNat + 10)
  else if 'A' ≤ c ∧ c ≤ 'F' then some (c.toNat - 'A'.toNat + 10)
  else none

/-- The character whose code point the digits spell. -/
def charOfDigits? (digits : List Char) : Option Char := do
  let n ← digits.foldlM (fun n c => (hexValue? c).map (n * 16 + ·)) 0
  if n.isValidChar then some (Char.ofNat n) else none

/-- The character of the escape after a backslash, and the rest. -/
def escape? : List Glyph → Option (Char × List Glyph)
  | [] => none
  | g :: rest =>
    match escapes.lookup g.char with
    | some (.char c) => some (c, rest)
    | some (.digits count) =>
      let digits := (rest.take count).map Glyph.char
      if digits.length = count then
        (charOfDigits? digits).map fun c => (c, rest.drop count)
      else none
    | none => none

/-- The text up to the closing quote, in reverse after the characters of `read`. Neither the end of
the document nor that of the text may come before it. -/
def text? (quote : Char) : Nat → List Char → List Glyph → Option (List Char × List Glyph)
  | 0, _, _ => none
  | _, _, [] => none
  | fuel + 1, read, g :: rest =>
    if Glyph.startsBoundary (g :: rest) || g.char == endMark then none
    else if isBlank g.char || isBreak g.char then do
      let (gap, rest) ← Gap.read? 0 Gap.empty (g :: rest)
      text? quote fuel (gap.joint ++ read) rest
    else if g.char = quote then
      if quote = '\'' && Glyph.startWith ['\''] rest then
        text? quote fuel ('\'' :: read) (rest.drop 1)
      else some (read, rest)
    else if g.char = '\\' ∧ quote = '"' then
      match rest with
      | h :: below =>
        if isBreak h.char then do
          let (gap, rest) ← Gap.read? 0 Gap.escaped below
          text? quote fuel (gap.joint ++ read) rest
        else do
          let (c, rest) ← escape? rest
          text? quote fuel (c :: read) rest
      | [] => none
    else text? quote fuel (g.char :: read) rest

/-- The text whose opening quote has been passed, and the rest. There are no more than `steps`
characters. -/
def read? (quote : Char) (steps : Nat) (gs : List Glyph) : Option (String × List Glyph) :=
  (text? quote (steps + 1) [] gs).map fun r => (String.ofList r.1.reverse, r.2)

end FleetSync.Yaml.Quoted
