import FleetSync.Yaml.Gap

/-!
# Texts without quotes

A plain text ends where a colon is followed by a gap, before a comment, where a line starts too far
to the left, and between brackets also at a mark of theirs.
-/
namespace FleetSync.Yaml

def isFlowMark (c : Char) : Bool :=
  c == ',' || c == '[' || c == ']' || c == '\x7b' || c == '\x7d'

/-- What may not follow a colon between brackets. -/
def isRefusedAfterColon (c : Char) : Bool := isFlowMark c || c == '?'

/-- Characters that start something else than a plain text. -/
def indicators : List Char :=
  ['-', '?', ':', ',', '[', ']', '\x7b', '\x7d', '#', '&', '*', '!', '|', '>', '\'', '"', '%', '@',
    '\x60']

namespace Plain

/-- A plain text starts here. A dash, a question mark or a colon starts one if no gap follows, the
latter two only outside of brackets. -/
def starts (inFlow : Bool) : List Glyph → Bool
  | [] => false
  | g :: rest =>
    (!isGap g.char && !indicators.contains g.char) ||
      (!Glyph.startsGap rest &&
        (g.char == '-' || (!inFlow && (g.char == '?' || g.char == ':'))))

/-- A word: its characters in reverse after those of `read`, and the rest. -/
def word? (inFlow : Bool) : List Char → List Glyph → Option (List Char × List Glyph)
  | read, [] => some (read, [])
  | read, g :: rest =>
    if isGap g.char then some (read, g :: rest)
    else if inFlow && g.char == ':' && rest.head?.any (fun h => isRefusedAfterColon h.char) then
      none
    else if (g.char == ':' && Glyph.startsGap rest) || (inFlow && isFlowMark g.char) then
      some (read, g :: rest)
    else word? inFlow (g.char :: read) rest

/-- The words from here on, each after the gap before it. Also tells whether the line has ended
behind the last one. -/
def words? (inFlow : Bool) (margin : Nat) :
    Nat → List Char → Gap → List Glyph → Option (List Char × Bool × List Glyph)
  | 0, _, _, _ => none
  | fuel + 1, read, gap, gs => do
    if Glyph.startsBoundary gs || Glyph.startWith ['#'] gs then return (read, gap.isBroken, gs)
    let (word, rest) ← word? inFlow [] gs
    let (read, gap) := if word.isEmpty then (read, gap) else (word ++ gap.joint ++ read, Gap.empty)
    match rest with
    | [] => return (read, gap.isBroken, [])
    | g :: _ =>
      if isBlank g.char || isBreak g.char then
        let (gap, rest) ← Gap.read? margin gap rest
        if !inFlow && rest.head?.any (·.column < margin) then return (read, gap.isBroken, rest)
        else words? inFlow margin fuel read gap rest
      else return (read, gap.isBroken, rest)

/-- The text, whether the line has ended behind it, and the rest. There are no more than `steps`
characters. -/
def read? (inFlow : Bool) (margin steps : Nat) (gs : List Glyph) :
    Option (String × Bool × List Glyph) :=
  (words? inFlow margin (steps + 1) [] Gap.empty gs).map fun r =>
    (String.ofList r.1.reverse, r.2)

end Plain

end FleetSync.Yaml
