import FleetSync.Yaml.Layout

/-!
# Nodes

The shape of a document: scalars, sequences and mappings, with their tags and anchors, and aliases
of anchors before them. Aliases refer to anchors by number. An anchor's number is the number of
names before it, so a name that occurs again gets a number which the next new name gets as well, and
the last node with a number is the one that is meant.
-/
namespace FleetSync.Yaml

structure Label where
  anchor : Option Nat
  tag : Option TagBytes
  deriving DecidableEq, Repr, Inhabited

inductive Node where
  | reference (anchor : Nat)
  | scalar (label : Label) (isPlain : Bool) (text : String)
  | sequence (label : Label) (items : List Node)
  | mapping (label : Label) (entries : List (Node × Node))
  deriving Repr, Inhabited

/-- What is left of the tokens, and what the document has declared so far. -/
structure Reading where
  tokens : List Token
  handles : Tag.Handles
  /-- The anchors' numbers by name, the last ones first. -/
  anchors : List (String × Nat)
  /-- How many names there are. -/
  names : Nat
  deriving Repr, Inhabited

/-- Takes something from the front of the tokens, or fails. -/
abbrev Reading.Taking (α : Type) := StateT Reading Option α

namespace Reading

def next? : Taking (Option Token) := return (← get).tokens.head?

def skip : Taking Unit := modify fun r => { r with tokens := r.tokens.drop 1 }

def skipIf (t : Token) : Taking Bool := do
  if (← next?) = some t then
    skip
    return true
  else return false

def isAt (ts : List Token) : Taking Bool := return (← next?).any ts.contains

def declare (name : String) : Taking Nat := do
  let r ← get
  let isKnown := (r.anchors.lookup name).isSome
  set { r with
    anchors := (name, r.names) :: r.anchors
    names := if isKnown then r.names else r.names + 1 }
  return r.names

def anchor : Taking (Option Nat) := do
  match ← next? with
  | some (.anchor name) =>
    skip
    return some (← declare name)
  | _ => return none

/-- A tag, whose handle must be known. -/
def tag : Taking (Option TagBytes) := do
  match ← next? with
  | some (.tag t) =>
    skip
    return some (← t.bytes? (← get).handles)
  | _ => return none

def label : Taking Label := do
  let before ← anchor
  let tag ← tag
  let after ← if before.isNone && tag.isSome then anchor else pure none
  return ⟨before.or after, tag⟩

end Reading

namespace Node

open Reading

def absent : Node := scalar ⟨none, none⟩ true ""

/-- Only a label has been written; there must be one. -/
def onlyLabel (l : Label) : Taking Node :=
  if l.anchor.isSome || l.tag.isSome then return scalar l true "" else failure

/-- A text, for which the unspecific tag is none. -/
def ofText (l : Label) (isPlain : Bool) (text : String) : Node :=
  scalar { l with tag := l.tag.filter (· ≠ Tag.unspecific) } isPlain text

/-- What comes after an item of a block, after one of an open list, after a part of a mapping in a
block, and after the parts of a list and of a mapping in brackets. -/
def itemEnds : List Token := [.item, .blockEnd]

def openItemEnds : List Token := [.item, .key, .value, .blockEnd]

def blockPartEnds : List Token := [.key, .value, .blockEnd]

def flowItemEnds : List Token := [.comma, .flowSequenceEnd]

def flowPartEnds : List Token := [.comma, .flowMappingEnd]

mutual

/-- A node. Only one outside of brackets may be a block, and only one that is part of a mapping may
be an open list, which stands at the column of the mapping. -/
def node (inBlock inMapping : Bool) : Nat → Taking Node
  | 0 => failure
  | fuel + 1 => do
    if let some (.reference name) ← next? then
      skip
      return reference (← (← get).anchors.lookup name)
    let l ← label
    match ← next? with
    | some (.scalar isPlain text) =>
      skip
      return ofText l isPlain text
    | some .flowSequence =>
      skip
      return sequence l (← flowItems fuel true)
    | some .flowMapping =>
      skip
      return mapping l (← flowEntries fuel true)
    | some .item => if inMapping then return sequence l (← openItems fuel) else onlyLabel l
    | some .blockSequence =>
      if inBlock then
        skip
        return sequence l (← blockItems fuel)
      else onlyLabel l
    | some .blockMapping =>
      if inBlock then
        skip
        return mapping l (← blockEntries fuel)
      else onlyLabel l
    | _ => onlyLabel l

/-- A node, which is absent where one of the tokens comes next. -/
def nodeBefore (ends : List Token) (inBlock inMapping : Bool) : Nat → Taking Node
  | 0 => failure
  | fuel + 1 => do if ← isAt ends then return absent else node inBlock inMapping fuel

def blockItems : Nat → Taking (List Node)
  | 0 => failure
  | fuel + 1 => do
    if ← skipIf .item then
      return (← nodeBefore itemEnds true false fuel) :: (← blockItems fuel)
    else if ← skipIf .blockEnd then return []
    else failure

/-- The items of a list at the column of a mapping. -/
def openItems : Nat → Taking (List Node)
  | 0 => failure
  | fuel + 1 => do
    if ← skipIf .item then
      return (← nodeBefore openItemEnds true false fuel) :: (← openItems fuel)
    else return []

def blockEntries : Nat → Taking (List (Node × Node))
  | 0 => failure
  | fuel + 1 => do
    if ← skipIf .key then
      let key ← nodeBefore blockPartEnds true true fuel
      let value ← if ← skipIf .value then nodeBefore blockPartEnds true true fuel else pure absent
      return (key, value) :: (← blockEntries fuel)
    else if ← skipIf .blockEnd then return []
    else failure

/-- The items of a list in brackets; a key starts a mapping of one entry. -/
def flowItems : Nat → Bool → Taking (List Node)
  | 0, _ => failure
  | fuel + 1, isFirst => do
    if ← skipIf .flowSequenceEnd then return []
    unless isFirst || (← skipIf .comma) do failure
    if ← skipIf .flowSequenceEnd then return []
    let item ← if ← skipIf .key then pairAfterKey fuel else node false false fuel
    return item :: (← flowItems fuel false)

/-- The entry of a mapping whose brackets are left out. Where the key is absent, the token behind it
is passed over with it. -/
def pairAfterKey : Nat → Taking Node
  | 0 => failure
  | fuel + 1 => do
    let key ← if ← isAt (.value :: flowItemEnds) then
        skip
        pure absent
      else node false false fuel
    let value ← if ← skipIf .value then nodeBefore flowItemEnds false false fuel else pure absent
    return mapping ⟨none, none⟩ [(key, value)]

def flowEntries : Nat → Bool → Taking (List (Node × Node))
  | 0, _ => failure
  | fuel + 1, isFirst => do
    if ← skipIf .flowMappingEnd then return []
    unless isFirst || (← skipIf .comma) do failure
    if ← skipIf .flowMappingEnd then return []
    let entry ← if ← skipIf .key then do
        let key ← nodeBefore (.value :: flowPartEnds) false false fuel
        let value ← if ← skipIf .value then nodeBefore flowPartEnds false false fuel
          else pure absent
        pure (key, value)
      else do pure (← node false false fuel, absent)
    return entry :: (← flowEntries fuel false)

end

/-- The node that comes next; each step of reading it takes a token or is followed by one. -/
def root : Taking Node := do node true false (3 * (← get).tokens.length + 3)

/-- The handles that directives declare, each once, and at most one version, which is known. -/
def declarations (handles : Tag.Handles) (hasVersion : Bool) :
    List Token → Option (Tag.Handles × List Token)
  | .directive (.version major minor) :: rest =>
    if !hasVersion && major = 1 && (minor = 1 || minor = 2) then declarations handles true rest
    else none
  | .directive (.handle name front) :: rest =>
    if (handles.lookup name).isSome then none
    else declarations ((name, front) :: handles) hasVersion rest
  | rest => some (handles, rest)

/-- The root of a document whose start has been passed, if the document is not empty. -/
def content (tokens : List Token) : Taking Node :=
  match tokens with
  | [] | .directive _ :: _ | .documentStart :: _ | .documentEnd :: _ => return absent
  | _ => root

/-- The documents of the tokens. All but the first one have to be announced, and may follow marks of
an end. -/
def documents : Nat → Bool → List Token → Option (List Node)
  | 0, _, _ => none
  | fuel + 1, isFirst, tokens =>
    let tokens := if isFirst then tokens else tokens.dropWhile (· = .documentEnd)
    match tokens with
    | [] => some []
    | t :: _ => do
      let isAnnounced := !isFirst || t = .documentStart || t matches .directive _
      let (handles, tokens) ← declarations [] false tokens
      let (node, rest) ←
        if isAnnounced then
          if tokens.head? = some .documentStart then
            (content (tokens.drop 1)).run ⟨tokens.drop 1, handles, [], 0⟩
          else none
        else root.run ⟨tokens, handles, [], 0⟩
      return node :: (← documents fuel false rest.tokens)

/-- The roots of a text's documents; a text without any is one empty document. -/
def ofText? (text : String) : Option (List Node) := do
  let tokens ← Token.ofText? text
  if tokens.isEmpty then return [absent]
  documents (tokens.length + 1) true tokens

def size : Node → Nat
  | reference _ => 1
  | scalar _ _ _ => 1
  | sequence _ items => sizes items + 2
  | mapping _ entries => entrySizes entries + 2
where
  sizes : List Node → Nat
    | [] => 0
    | n :: rest => n.size + sizes rest
  entrySizes : List (Node × Node) → Nat
    | [] => 0
    | (k, v) :: rest => k.size + v.size + entrySizes rest

end Node

end FleetSync.Yaml
