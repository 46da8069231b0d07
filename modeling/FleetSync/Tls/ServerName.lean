import FleetSync.Text.Digits

/-!
# Names of servers

By what name a server's certificate knows it: a name of the domain name system, or an address of
four or of eight numbers.
-/
namespace FleetSync.Tls

/-- A character of a label, apart from the hyphen. -/
def isLabelChar (c : Char) : Bool := c.isAlphanum || c == '_'

/-- A part of a name: at most 63 characters, without a hyphen at its ends. -/
def isLabel (cs : List Char) : Bool :=
  cs.all (fun c => isLabelChar c || c == '-') && cs.length ≤ 63 &&
    cs.head?.any isLabelChar && cs.getLast?.any isLabelChar

/-- The parts of a name, and of at most 253 characters. A point may stand at the end; the last part
is not a number. -/
def isDomainName (name : String) : Bool :=
  let labels := (name.splitOn ".").map String.toList
  let labels := if labels.getLast? = some [] then labels.dropLast else labels
  name.utf8ByteSize ≤ 253 && labels.all isLabel &&
    labels.getLast?.any fun l => !l.all Char.isDigit

/-- A number of an address of four: at most 255, without zeros at its front. -/
def isOctet (cs : List Char) : Bool :=
  cs.all Char.isDigit && 1 ≤ cs.length && cs.length ≤ 3 && Text.digitsValue cs ≤ 255 &&
    (cs.length == 1 || cs.head? != some '0')

def isAddress4 (text : String) : Bool :=
  let parts := (text.splitOn ".").map String.toList
  parts.length == 4 && parts.all isOctet

/-- A number of an address of eight. -/
def isGroup (text : String) : Bool :=
  let cs := text.toList
  1 ≤ cs.length && cs.length ≤ 4 &&
    cs.all fun c => c.isDigit || ('a' ≤ c.toLower && c.toLower ≤ 'f')

/-- How many of the eight numbers some parts are; the last part may be an address of four if it can
end the address, and counts twice. -/
def groupCount? (mayEnd : Bool) : List String → Option Nat
  | [] => some 0
  | [part] =>
    if isGroup part then some 1 else if mayEnd && isAddress4 part then some 2 else none
  | part :: rest => if isGroup part then (groupCount? mayEnd rest).map (· + 1) else none

def sideCount? (mayEnd : Bool) (side : String) : Option Nat :=
  if side = "" then some 0 else groupCount? mayEnd (side.splitOn ":")

/-- Eight numbers with colons between them; two colons may stand for some zeros. -/
def isAddress8 (text : String) : Bool :=
  match text.splitOn "::" with
  | [side] => groupCount? true (side.splitOn ":") == some 8
  | [front, back] =>
    match sideCount? false front, sideCount? true back with
    | some m, some n => decide (m + n ≤ 7)
    | _, _ => false
  | _ => false

def isServerName (text : String) : Bool :=
  isDomainName text || isAddress4 text || isAddress8 text

end FleetSync.Tls
