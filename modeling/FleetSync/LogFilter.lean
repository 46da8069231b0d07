import FleetSync.LogFilter.Directive

/-!
# Log filters

Which messages are logged: directives with commas between them. A filter that does not parse gives
way to a default, of which the directives that do not parse are left out; a default without any
directive asks for errors.
-/
namespace FleetSync

/-- The directives of a filter, in each list at most one for the same messages. -/
structure LogFilter where
  /-- What can be told before the program runs. -/
  statics : List LogDirective
  /-- What depends on the spans that a message is in. -/
  dynamics : List LogDirective
  deriving Repr, Inhabited

namespace LogFilter

def parts (text : String) : List String := (text.splitOn ",").filter (· ≠ "")

/-- The last directive for the same messages, in each place. -/
def settled (l : List LogDirective) : List LogDirective :=
  l.foldl (fun kept d => kept.filter (fun e => !d.hasScopeOf e) ++ [d]) []

/-- A directive on a field without a value is in both lists. -/
def ofDirectives (l : List LogDirective) : LogFilter :=
  let (dynamics, statics) := l.partition LogDirective.isDynamic
  ⟨settled (statics ++ dynamics.filter LogDirective.isStatic), settled dynamics⟩

/-- The filter of a text all of whose parts are directives. -/
def ofText (text : String) : Except LogDirective.Fault LogFilter :=
  ((parts text).mapM LogDirective.ofText).map ofDirectives

def directivesAmong : List String → Except LogDirective.Fault (List LogDirective)
  | [] => .ok []
  | s :: rest =>
    match LogDirective.ofText s with
    | .ok d => (directivesAmong rest).map (d :: ·)
    | .error .malformed => directivesAmong rest
    | .error fault => .error fault

/-- The filter of the parts that are directives. -/
def ofTextLossy (text : String) : Except LogDirective.Fault LogFilter :=
  (directivesAmong (parts text)).map fun l =>
    ofDirectives (if l.isEmpty then [LogDirective.ofLevel .error] else l)

/-- The filter of a setting, or of the default if the setting is missing or does not parse. -/
def choose (setting : Option String) (default : String) : Except LogDirective.Fault LogFilter :=
  match setting.map ofText with
  | none | some (.error .malformed) => ofTextLossy default
  | some result => result

/-- The filter of a controller that is told nothing else. -/
def defaultText : String := "lattice_fleet=info,kube=warn,info"

def text (f : LogFilter) : String :=
  String.intercalate "," ((f.statics ++ f.dynamics).map LogDirective.text)

/-- A filter's text cut at its commas, in order. -/
def texts (f : LogFilter) : List String :=
  (f.text.splitOn ",").mergeSort fun a b => decide (a ≤ b)

end LogFilter

end FleetSync
