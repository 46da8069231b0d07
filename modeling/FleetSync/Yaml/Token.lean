import FleetSync.Yaml.Tag

/-!
# Tokens

What a text consists of once blanks and comments are gone: marks, whose columns have been turned
into starts and ends of blocks, and the values between them.
-/
namespace FleetSync.Yaml

inductive Token where
  | directive (d : Directive)
  | documentStart
  | documentEnd
  | blockSequence
  | blockMapping
  /-- The end of either block. -/
  | blockEnd
  | flowSequence
  | flowSequenceEnd
  | flowMapping
  | flowMappingEnd
  /-- The dash before an item of a block. -/
  | item
  | comma
  /-- A key follows. -/
  | key
  /-- The value of a key follows. -/
  | value
  | reference (name : String)
  | anchor (name : String)
  | tag (t : Tag)
  | scalar (isPlain : Bool) (text : String)
  deriving DecidableEq, Repr, Inhabited

end FleetSync.Yaml
