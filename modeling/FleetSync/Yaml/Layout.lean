import FleetSync.Yaml.Block
import FleetSync.Yaml.Plain
import FleetSync.Yaml.Token

/-!
# Layout

How columns become blocks. A block lasts as long as its lines do not start to the left of it. That a
value is a key shows only at the colon behind it, so the place where it starts is remembered, and
the token that announces a key is put there afterwards. A key stays on one line and has at most 1024
characters. At the column of a block of keys a value has to be one.
-/
namespace FleetSync.Yaml

structure KeyStart where
  /-- The number of tokens before it. -/
  token : Nat
  index : Nat
  line : Nat
  column : Nat
  /-- Only a key may stand there. -/
  isRequired : Bool
  deriving DecidableEq, Repr, Inhabited

/-- The tokens so far, and what decides about the next ones. -/
structure Layout where
  /-- The tokens in reverse. -/
  tokens : List Token
  /-- The number of tokens. -/
  count : Nat
  /-- For each open block, the inner ones first, the least column to the right of its start. -/
  margins : List Nat
  /-- Where a key may have started, within the innermost bracket. -/
  key : Option KeyStart
  /-- The same around each open bracket, the inner ones first. -/
  outerKeys : List (Option KeyStart)
  /-- A key may start here. -/
  mayStartKey : Bool
  deriving Repr, Inhabited

namespace Layout

def start : Layout := ⟨[], 0, [], none, [], true⟩

def inFlow (l : Layout) : Bool := !l.outerKeys.isEmpty

/-- The least column at which the contents of the innermost block may stand. -/
def margin (l : Layout) : Nat := l.margins.headD 0

def push (l : Layout) (t : Token) : Layout :=
  { l with tokens := t :: l.tokens, count := l.count + 1 }

/-- The token behind so many of those that are there. -/
def insert (l : Layout) (place : Nat) (t : Token) : Layout :=
  let behind := l.count - place
  { l with
    tokens := l.tokens.take behind ++ t :: l.tokens.drop behind
    count := l.count + 1 }

def allowKey (l : Layout) (allowed : Bool) : Layout := { l with mayStartKey := allowed }

/-- Ends the blocks with a margin beyond `bound`; brackets keep all of them open. -/
def closeBlocks (l : Layout) (bound : Nat) : Layout :=
  if l.inFlow then l
  else
    let closed := (l.margins.takeWhile (bound < ·)).length
    { closed.repeat (·.push .blockEnd) l with margins := l.margins.drop closed }

/-- Starts a block at a column that is to the right of the innermost one. -/
def openBlock (l : Layout) (column place : Nat) (t : Token) : Layout :=
  if !l.inFlow && l.margin ≤ column then
    { l.insert place t with margins := (column + 1) :: l.margins }
  else l

/-- No key has started, which must be possible. -/
def dropKey? (l : Layout) : Option Layout :=
  if l.key.any (·.isRequired) then none else some { l with key := none }

/-- Remembers the place of a value, which may turn out to be a key. -/
def saveKey? (l : Layout) (g : Glyph) : Option Layout :=
  if l.mayStartKey then
    l.dropKey?.map fun l => { l with
      key := some ⟨l.count, g.index, g.line, g.column,
        !l.inFlow && l.margin == g.column + 1⟩ }
  else some l

/-- The most characters from a key's start to its colon. -/
def maxKeyLength : Nat := 1024

def KeyStart.isStale (k : KeyStart) (g : Glyph) : Bool :=
  k.line < g.line || k.index + maxKeyLength < g.index

/-- Forgets the places that are too far away; none of them may have required a key. -/
def forgetKeys? (l : Layout) (g : Glyph) : Option Layout :=
  let stale (k : Option KeyStart) := k.filter (KeyStart.isStale · g)
  let forget (k : Option KeyStart) := k.filter fun k => !KeyStart.isStale k g
  if (l.key :: l.outerKeys).any fun k => (stale k).any (·.isRequired) then none
  else some { l with key := forget l.key, outerKeys := l.outerKeys.map forget }

/-- What is in front of the next token: blanks, comments and ends of lines, and a byte order mark at
the very front. Where a key may start outside of brackets, no tabulator is passed over, and the end
of a line lets one start. -/
def skip (inFlow : Bool) : Bool → Bool → List Glyph → Bool × List Glyph
  | _, allowed, [] => (allowed, [])
  | inComment, allowed, g :: rest =>
    if isBreak g.char then skip inFlow false (allowed || !inFlow) rest
    else if g.char = endMark then (allowed, g :: rest)
    else if inComment || g.char == '#' then skip inFlow true allowed rest
    else if g.char == ' ' || (g.char == '\t' && (inFlow || !allowed)) ||
        (g.index == 0 && g.char == '\ufeff') then skip inFlow false allowed rest
    else (allowed, g :: rest)

/-- A token outside of values, after which a key may start or not. -/
def mark? (l : Layout) (t : Token) (allowed : Bool) : Option Layout :=
  l.dropKey?.map fun l => (l.push t).allowKey allowed

def boundary? (l : Layout) (t : Token) : Option Layout := (l.closeBlocks 0).mark? t false

def openFlow? (l : Layout) (g : Glyph) (t : Token) : Option Layout :=
  (l.saveKey? g).map fun l =>
    { l.push t with key := none, outerKeys := l.key :: l.outerKeys, mayStartKey := true }

def closeFlow? (l : Layout) (t : Token) : Option Layout :=
  (l.mark? t false).map fun l =>
    match l.outerKeys with
    | [] => l
    | key :: outer => { l with key, outerKeys := outer }

/-- A dash before an item or a question mark before a key. -/
def entry? (l : Layout) (g : Glyph) (block t : Token) (allowed : Bool) : Option Layout :=
  if l.inFlow then l.mark? t allowed
  else if l.mayStartKey then (l.openBlock g.column l.count block).mark? t allowed
  else none

/-- A colon: behind the start of a key on its line, behind a key after a question mark, or after
nothing. -/
def value? (l : Layout) (g : Glyph) : Option Layout :=
  match l.key with
  | some k =>
    let l := (l.insert k.token .key).openBlock k.column k.token .blockMapping
    some { l.push .value with key := none, mayStartKey := false }
  | none =>
    if l.inFlow then some ((l.push .value).allowKey false)
    else if l.mayStartKey then
      some (((l.openBlock g.column l.count .blockMapping).push .value).allowKey true)
    else none

/-- What may follow the name of an anchor, apart from a gap. -/
def nameEnds : List Char := ['?', ':', ',', ']', '\x7d', '%', '@', '\x60']

def name? (gs : List Glyph) : Option (String × List Glyph) :=
  let (name, rest) := Glyph.spanChars isWordChar gs
  if !name.isEmpty && (Glyph.startsGap rest || rest.head?.any fun g => nameEnds.contains g.char)
  then some (String.ofList name, rest)
  else none

def content? (l : Layout) (g : Glyph) (read : Option (Token × List Glyph)) :
    Option (Layout × List Glyph) := do
  let l ← l.saveKey? g
  let (t, rest) ← read
  return ((l.push t).allowKey false, rest)

/-- The token at a character that does not belong to a gap, and the rest, in which there are no more
than `steps` characters. -/
def token? (l : Layout) (steps : Nat) (g : Glyph) (rest : List Glyph) :
    Option (Layout × List Glyph) :=
  let gs := g :: rest
  let mark (l : Option Layout) := l.map fun l => (l, rest)
  let c := g.char
  if g.column = 0 ∧ c = '%' then do
    let (d, below) ← Directive.read? rest
    (l.boundary? (.directive d)).map fun l => (l, below)
  else if Glyph.startsMarker '-' gs then (l.boundary? .documentStart).map fun l => (l, gs.drop 3)
  else if Glyph.startsMarker '.' gs then (l.boundary? .documentEnd).map fun l => (l, gs.drop 3)
  else if c = '[' then mark (l.openFlow? g .flowSequence)
  else if c = '\x7b' then mark (l.openFlow? g .flowMapping)
  else if c = ']' then mark (l.closeFlow? .flowSequenceEnd)
  else if c = '\x7d' then mark (l.closeFlow? .flowMappingEnd)
  else if c = ',' then mark (l.mark? .comma true)
  else if c = '-' ∧ Glyph.startsGap rest then mark (l.entry? g .blockSequence .item true)
  else if c = '?' ∧ (l.inFlow ∨ Glyph.startsGap rest) then
    mark (l.entry? g .blockMapping .key (!l.inFlow))
  else if c = ':' ∧ (l.inFlow ∨ Glyph.startsGap rest) then mark (l.value? g)
  else if c = '*' then l.content? g ((name? rest).map fun r => (.reference r.1, r.2))
  else if c = '&' then l.content? g ((name? rest).map fun r => (.anchor r.1, r.2))
  else if c = '!' then l.content? g ((Tag.read? l.inFlow gs).map fun r => (.tag r.1, r.2))
  else if (c = '|' ∨ c = '>') ∧ !l.inFlow then do
    let (text, below) ← Block.read? (c = '>') l.margin steps rest
    (l.mark? (.scalar false text) true).map fun l => (l, below)
  else if c = '\'' ∨ c = '"' then
    l.content? g ((Quoted.read? c steps rest).map fun r => (.scalar false r.1, r.2))
  else if Plain.starts l.inFlow gs then do
    let (text, isBroken, below) ← Plain.read? l.inFlow l.margin steps gs
    let (l, below) ← l.content? g (some (.scalar true text, below))
    return (l.allowKey isBroken, below)
  else none

/-- The tokens of the rest of a text, of which each takes a character at least. -/
def tokens? : Nat → Layout → List Glyph → Option (List Token)
  | 0, _, _ => none
  | fuel + 1, l, gs =>
    let (allowed, gs) := skip l.inFlow false l.mayStartKey gs
    match gs with
    | [] => none
    | g :: rest => do
      let l ← (l.allowKey allowed).forgetKeys? g
      if g.char = endMark then
        return (← (l.closeBlocks 0).dropKey?).tokens.reverse
      else
        let (l, rest) ← (l.closeBlocks (g.column + 1)).token? fuel g rest
        tokens? fuel l rest

end Layout

def Token.ofText? (text : String) : Option (List Token) := do
  let gs ← Glyph.ofText? text
  Layout.tokens? (gs.length + 1) Layout.start gs

end FleetSync.Yaml
