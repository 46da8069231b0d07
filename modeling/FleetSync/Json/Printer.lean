import FleetSync.Json.Basic

/-!
# Writing JSON text

The compact form: no blanks, fields in the order in which the object lists them. In strings a
quote, a backslash and the control characters below U+0020 are escaped and nothing else.
-/
namespace FleetSync.Json

private def hexDigit (n : Nat) : Char := (Nat.toDigits 16 n).headD '0'

def escape (c : Char) : List Char :=
  if c = '"' then ['\\', '"']
  else if c = '\\' then ['\\', '\\']
  else if c = '\n' then ['\\', 'n']
  else if c = '\r' then ['\\', 'r']
  else if c = '\t' then ['\\', 't']
  else if c = '\x08' then ['\\', 'b']
  else if c = '\x0c' then ['\\', 'f']
  else if c.toNat < 0x20 then
    ['\\', 'u', '0', '0', hexDigit (c.toNat / 16), hexDigit (c.toNat % 16)]
  else [c]

def renderString (s : String) : String :=
  "\"" ++ String.ofList (s.toList.flatMap escape) ++ "\""

/-- The positional form of a decimal, with at least one digit after the point. -/
def renderDecimal (digits exponent : Int) : String :=
  let sign := if digits < 0 then "-" else ""
  let body := Nat.toDigits 10 digits.natAbs
  if 0 ≤ exponent then
    sign ++ String.ofList (body ++ List.replicate exponent.toNat '0') ++ ".0"
  else
    let places := (-exponent).toNat
    let padded := List.replicate (places + 1 - body.length) '0' ++ body
    let whole := padded.length - places
    sign ++ String.ofList (padded.take whole) ++ "." ++ String.ofList (padded.drop whole)

def commaSeparated : List String → String
  | [] => ""
  | [s] => s
  | s :: rest => s ++ "," ++ commaSeparated rest

mutual

def render : Json → String
  | .null => "null"
  | .unreadable => "null"
  | .bool b => if b then "true" else "false"
  | .int n => toString n
  | .decimal d e => renderDecimal d e
  | .str s => renderString s
  | .arr items => "[" ++ commaSeparated (renderItems items) ++ "]"
  | .obj fields => "\x7b" ++ commaSeparated (renderFields fields) ++ "\x7d"

def renderItems : List Json → List String
  | [] => []
  | j :: rest => render j :: renderItems rest

def renderFields : List (String × Json) → List String
  | [] => []
  | (name, j) :: rest => (renderString name ++ ":" ++ render j) :: renderFields rest

end

end FleetSync.Json
