import FleetSync.LogFilter.Field
import FleetSync.LogFilter.Level
import FleetSync.Text.Blank
import FleetSync.Text.Bytes
import FleetSync.Text.Letters

/-!
# Directives

A directive gives the level of the messages of a target, or of all messages; in brackets it may
narrow them to those within a span, and to a span with a certain field. It is read by a machine over
its text without the blanks around it. What the machine finds between two positions is cut out of
the whole text at these positions, so blanks at the front shift every part, and may let a cut fall
inside a character.
-/
namespace FleetSync

structure LogDirective where
  target : Option String
  span : Option String
  field : Option FieldMatch
  level : LogLevel
  deriving Repr, Inhabited

namespace LogDirective

/-- A directive that names no messages in particular. -/
def ofLevel (l : LogLevel) : LogDirective := ⟨none, none, none, l⟩

def text (d : LogDirective) : String :=
  let field := (d.field.map fun m => "\x7b" ++ m.text ++ "\x7d").getD ""
  let place := if d.span.isSome ∨ d.field.isSome then "[" ++ d.span.getD "" ++ field ++ "]" else ""
  let scope := d.target.getD "" ++ place
  if d.target.isSome ∨ d.span.isSome ∨ d.field.isSome then scope ++ "=" ++ d.level.text
  else d.level.text

/-- The messages of both directives are named in the same way. -/
def hasScopeOf (a b : LogDirective) : Bool :=
  a.target == b.target && a.span == b.span &&
    match a.field, b.field with
    | some m, some n => m.isSame n
    | none, none => true
    | _, _ => false

/-- Only a running program can tell whether the directive applies. -/
def isDynamic (d : LogDirective) : Bool := d.span.isSome || d.field.isSome

/-- The directive also says something of a message by its place in the program alone. -/
def isStatic (d : LogDirective) : Bool :=
  d.span.isNone && (d.field.bind (·.value)).isNone

inductive Fault where
  | malformed
  /-- A part ends inside a character. -/
  | splitCharacter
  deriving DecidableEq, Repr, Inhabited

/-- What is being read, and where it starts. -/
inductive Stage where
  | start
  /-- A level, or a target that may be followed by one. -/
  | word (first : Nat)
  | span (first : Nat)
  | field (first : Nat)
  /-- A field has been read. -/
  | fieldEnd
  /-- The span has been read. -/
  | spanEnd
  | level (first : Nat)
  deriving DecidableEq, Repr, Inhabited

structure Draft where
  stage : Stage
  target : Option String
  span : Option String
  field : Option FieldMatch
  deriving Repr, Inhabited

/-- A character that a target or a level may start with. -/
def isWordStart (c : Char) : Bool :=
  c == '-' || c == ':' || c == '_' || Text.isLetterOrDigit c

/-- The part of a text between two positions, which count bytes. -/
def cut (whole : List Char) (first last : Nat) : Except Fault String :=
  match Text.sliceBytes? first last whole with
  | some cs => .ok (String.ofList cs)
  | none => .error .splitCharacter

def Draft.step (whole : List Char) (d : Draft) (i : Nat) (c : Char) : Except Fault Draft :=
  match d.stage with
  | .start =>
    if c = '[' then .ok { d with stage := .span (i + 1) }
    else if isWordStart c then .ok { d with stage := .word i }
    else .error .malformed
  | .word first =>
    if c = '=' then
      (cut whole first i).map fun s => { d with target := some s, stage := .level (i + 1) }
    else if c = '[' then
      (cut whole first i).map fun s => { d with target := some s, stage := .span (i + 1) }
    else .ok d
  | .span first =>
    if c = ']' then (cut whole first i).map fun s => { d with span := some s, stage := .spanEnd }
    else if c = '\x7b' then
      (cut whole first i).map fun s =>
        { d with span := if s = "" then none else some s, stage := .field (i + 1) }
    else .ok d
  | .field first =>
    if c = '\x7d' then do
      let s ← cut whole first i
      if s = "" then .error .malformed
      else
        match FieldMatch.ofText? s with
        | some m => .ok { d with field := some m, stage := .fieldEnd }
        | none => .error .malformed
    else .ok d
  | .fieldEnd => if c = ']' then .ok { d with stage := .spanEnd } else .error .malformed
  | .spanEnd => if c = '=' then .ok { d with stage := .level (i + 1) } else .error .malformed
  | .level _ => .ok d

/-- The characters of a text, the first of them at a position. -/
def Draft.run (whole : List Char) : Draft → Nat → List Char → Except Fault Draft
  | d, _, [] => .ok d
  | d, i, c :: rest => do
    let d ← d.step whole i c
    d.run whole (i + c.utf8Size) rest

/-- The directive at the end of the text; without a level it asks for all messages. -/
def Draft.finish (whole : List Char) (d : Draft) : Except Fault LogDirective :=
  let size := (String.ofList whole).utf8ByteSize
  match d.stage with
  | .word first =>
    (cut whole first size).map fun s =>
      if s = "" then ofLevel .trace
      else
        match LogLevel.ofText? s with
        | some l => ofLevel l
        | none => ⟨some s, none, none, .trace⟩
  | .level first => do
    let s ← cut whole first size
    if s = "" then .ok ⟨d.target, d.span, d.field, .trace⟩
    else
      match LogLevel.ofText? s with
      | some l => .ok ⟨d.target, d.span, d.field, l⟩
      | none => .error .malformed
  | .spanEnd => .ok ⟨d.target, d.span, d.field, .trace⟩
  | _ => .error .malformed

def ofText (s : String) : Except Fault LogDirective := do
  let draft ← Draft.run s.toList ⟨.start, none, none, none⟩ 0 (Text.trim s).toList
  draft.finish s.toList

end LogDirective

end FleetSync
