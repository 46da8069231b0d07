import FleetSync.Yaml.Glyph

/-!
# Gaps between words

Words of one text may stand on several lines. Blanks within a line are kept as they are. Around a
line's end they are dropped, and a single end of a line is folded into a blank; of several ones the
first is dropped.
-/
namespace FleetSync.Yaml

structure Gap where
  /-- The blanks up to the end of the line, in reverse. -/
  blanks : List Char
  /-- The line has ended. -/
  isBroken : Bool
  /-- What ended the line; nothing if its end was escaped. -/
  first : List Char
  /-- The ends of the empty lines that follow, in reverse. -/
  others : List Char
  deriving DecidableEq, Repr, Inhabited

namespace Gap

def empty : Gap := ⟨[], false, [], []⟩

/-- After an escaped end of a line. -/
def escaped : Gap := ⟨[], true, [], []⟩

def add (gap : Gap) (c : Char) : Gap :=
  if isBreak c then
    if gap.isBroken then { gap with others := c :: gap.others } else ⟨[], true, [c], []⟩
  else if gap.isBroken then gap
  else { gap with blanks := c :: gap.blanks }

/-- What the words are joined by, in reverse. -/
def joint (gap : Gap) : List Char :=
  if gap.isBroken then
    if gap.first = ['\n'] then if gap.others.isEmpty then [' '] else gap.others
    else gap.others ++ gap.first
  else gap.blanks

/-- The gap at the front of the characters. No tabulator may stand before the column `least` of a
line that is not the gap's first one. -/
def read? (least : Nat) : Gap → List Glyph → Option (Gap × List Glyph)
  | gap, [] => some (gap, [])
  | gap, g :: rest =>
    if isBlank g.char || isBreak g.char then
      if gap.isBroken ∧ g.char = '\t' ∧ g.column < least then none
      else read? least (gap.add g.char) rest
    else some (gap, g :: rest)

end Gap

end FleetSync.Yaml
