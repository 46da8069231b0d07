import FleetSync.Text.Digits

/-!
# Levels of messages

How urgent a message is, and from which level on messages are logged.
-/
namespace FleetSync

/-- The levels of messages, the most urgent ones first. -/
inductive LogLevel where
  | off
  | error
  | warn
  | info
  | debug
  | trace
  deriving DecidableEq, Repr, Inhabited

namespace LogLevel

def text : LogLevel → String
  | off => "off"
  | error => "error"
  | warn => "warn"
  | info => "info"
  | debug => "debug"
  | trace => "trace"

def all : List LogLevel := [off, error, warn, info, debug, trace]

/-- A level by its name in any case, or by its number. -/
def ofText? (s : String) : Option LogLevel :=
  match Text.unsigned? s with
  | some n => all[n]?
  | none => all.find? fun l => l.text = s.toLower

end LogLevel

end FleetSync
