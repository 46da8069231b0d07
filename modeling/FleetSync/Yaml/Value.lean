import FleetSync.Yaml.Node
import FleetSync.Yaml.Scalar

/-!
# Values

What the nodes of a document stand for. Plain scalars are resolved, tags of the core schema are
obeyed, tags of the document's own are kept, and aliases are replaced by what they refer to: not
deeper than 128 levels, and not too often for the size of the document. No key occurs twice in a
mapping.
-/
namespace FleetSync.Yaml

inductive Value where
  | null
  | truth (b : Bool)
  | number (n : Number)
  | text (s : String)
  | sequence (items : List Value)
  | mapping (entries : List (Value × Value))
  /-- A value with a tag, which is without the exclamation mark at its front. -/
  | tagged (tag : String) (value : Value)
  deriving Repr, Inhabited

namespace Value

mutual

/-- The same value; the order of a mapping's entries does not matter. -/
def isSame : Value → Value → Bool
  | null, null => true
  | truth a, truth b => a == b
  | number a, number b => a == b
  | text a, text b => a == b
  | sequence as, sequence bs => areSame as bs
  | mapping as, mapping bs => as.length == bs.length && areAmong as bs
  | tagged s a, tagged t b => s == t && isSame a b
  | _, _ => false

def areSame : List Value → List Value → Bool
  | [], [] => true
  | a :: as, b :: bs => isSame a b && areSame as bs
  | _, _ => false

def areAmong : List (Value × Value) → List (Value × Value) → Bool
  | [], _ => true
  | (k, v) :: rest, entries =>
    entries.any (fun e => isSame k e.1 && isSame v e.2) && areAmong rest entries

end

def ofScalar : Scalar → Value
  | .null => null
  | .truth b => truth b
  | .number n => number n
  | .text s => text s

def coreFront : String := "tag:yaml.org,2002:"

/-- The tags of the core schema that ask for something else than a text. -/
def coreTags : List String := ["bool", "int", "float", "null"]

/-- A tag without the exclamation mark at its front, unless that is all of it. -/
def withoutMark (tag : String) : String :=
  match tag.toList with
  | '!' :: c :: rest => String.ofList (c :: rest)
  | _ => tag

/-- The name of a tag of the document's own. Tags that differ in a second mark are the same. -/
def ownTag? (bytes : TagBytes) : Option String :=
  match bytes with
  | 0x21 :: _ => (Text.ofUtf8? bytes).map fun s => withoutMark (withoutMark s)
  | _ => none

def ofUntagged? (isPlain : Bool) (s : String) : Option Value :=
  if isPlain then (Scalar.ofPlain? s).map ofScalar else some (text s)

/-- What a text with a tag or without one stands for. -/
def ofText? (tag : Option TagBytes) (isPlain : Bool) (s : String) : Option Value :=
  match tag with
  | none => ofUntagged? isPlain s
  | some bytes =>
    match ownTag? bytes with
    | some name => (ofUntagged? isPlain s).map (tagged name)
    | none =>
      if bytes.head? = some 0x21 then ofUntagged? isPlain s
      else
        match coreTags.find? fun name => bytes = Text.toUtf8 (coreFront ++ name) with
        | some name => (Scalar.ofTagged? name s).map ofScalar
        | none => some (text s)

/-- A value with the tag of its node, if that is one of the document's own. -/
def withTag (tag : Option TagBytes) (v : Value) : Value :=
  match tag.bind ownTag? with
  | some name => tagged name v
  | none => v

/-- The mapping of these entries, if no key occurs twice. -/
def ofEntries? : List (Value × Value) → List (Value × Value) → Option Value
  | read, [] => some (mapping read.reverse)
  | read, (k, v) :: rest =>
    if read.any fun e => e.1.isSame k then none else ofEntries? ((k, v) :: read) rest

/-- What aliases refer to, and how many of them may be replaced. -/
structure Anchors where
  /-- The nodes by number, the last ones first. -/
  nodes : List (Nat × Node)
  limit : Nat
  deriving Repr, Inhabited

/-- Counts the aliases that have been replaced, or fails. -/
abbrev Replacing (α : Type) := StateT Nat Option α

namespace Anchors

def follow (a : Anchors) : Node → Replacing Node
  | .reference anchor => do
    let replaced ← get
    if replaced < a.limit then
      set (replaced + 1)
      a.nodes.lookup anchor
    else failure
  | n => return n

mutual

/-- The anchors of a node and of those within it, before others. -/
def ofNode (others : List (Nat × Node)) : Node → List (Nat × Node)
  | .reference _ => others
  | .scalar l p s => ((l.anchor.map fun i => (i, Node.scalar l p s)).toList) ++ others
  | .sequence l items =>
    ofNodes ((l.anchor.map fun i => (i, Node.sequence l items)).toList ++ others) items
  | .mapping l entries =>
    ofEntries ((l.anchor.map fun i => (i, Node.mapping l entries)).toList ++ others) entries

def ofNodes (others : List (Nat × Node)) : List Node → List (Nat × Node)
  | [] => others
  | n :: rest => ofNodes (ofNode others n) rest

def ofEntries (others : List (Nat × Node)) : List (Node × Node) → List (Nat × Node)
  | [] => others
  | (k, v) :: rest => ofEntries (ofNode (ofNode others k) v) rest

end

/-- How many aliases may be replaced for each start or end of a node. -/
def replacementsPerEvent : Nat := 100

def ofRoot (n : Node) : Anchors := ⟨ofNode [] n, n.size * replacementsPerEvent⟩

end Anchors

/-- The value of a node, the parts of which are read by `within`, if there may be any. -/
def ofNodeWith (a : Anchors) (within : Option (Node → Replacing Value)) (n : Node) :
    Replacing Value := do
  match ← a.follow n, within with
  | .scalar l isPlain s, _ => ofText? l.tag isPlain s
  | .sequence l items, some within => return withTag l.tag (sequence (← items.mapM within))
  | .mapping l entries, some within => do
    let entries ← entries.mapM fun e => do return (← within e.1, ← within e.2)
    return withTag l.tag (← ofEntries? [] entries)
  | _, _ => failure

/-- The value of a node in which this many levels are allowed. -/
def ofNode (a : Anchors) : Nat → Node → Replacing Value
  | 0 => ofNodeWith a none
  | depth + 1 => ofNodeWith a (some (ofNode a depth))

def maxDepth : Nat := 128

def ofRoot? (n : Node) : Option Value := (ofNode (Anchors.ofRoot n) maxDepth n).run' 0

def documents? (text : String) : Option (List Value) := do (← Node.ofText? text).mapM ofRoot?

end Value

end FleetSync.Yaml
