import FleetSync.Text.Base64
import FleetSync.Text.Blank
import FleetSync.Text.Utf8

/-!
# Armoured bytes

A section holds bytes in Base64 between a line that begins it and one that ends it, which name what
the bytes are. Headers may stand before the bytes, with an empty line behind them. What stands
outside of sections is passed over, and so is a section without an end.
-/
namespace FleetSync.Tls

structure Section where
  label : String
  bytes : List UInt8
  deriving DecidableEq, Repr, Inhabited

namespace Section

/-- What stands before some bytes, and what after them. -/
def splitAt? (mark : List UInt8) : List UInt8 → Option (List UInt8 × List UInt8)
  | [] => none
  | b :: rest =>
    if mark.isPrefixOf (b :: rest) then some ([], (b :: rest).drop mark.length)
    else (splitAt? mark rest).map fun r => (b :: r.1, r.2)

def isBlank (b : UInt8) : Bool := b == 0x20 || b == 0x09 || b == 0x0A || b == 0x0D

structure Frame where
  label : List UInt8
  body : List UInt8
  endLabel : List UInt8

def frame? (bytes : List UInt8) : Option (Frame × List UInt8) := do
  let dashes := Text.toUtf8 "-----"
  let (_, rest) ← splitAt? (Text.toUtf8 "-----BEGIN ") bytes
  let (label, rest) ← splitAt? dashes rest
  let (body, rest) ← splitAt? (Text.toUtf8 "-----END ") (rest.dropWhile isBlank)
  let (endLabel, rest) ← splitAt? dashes rest
  return (⟨label, body, endLabel⟩, rest)

def frames : Nat → List UInt8 → List Frame
  | 0, _ => []
  | fuel + 1, bytes =>
    match frame? bytes with
    | some (frame, rest) => frame :: frames fuel rest
    | none => []

def splitHeaders (body : List UInt8) : List UInt8 × List UInt8 :=
  ((splitAt? [0x0A, 0x0A] body).or (splitAt? [0x0D, 0x0A, 0x0D, 0x0A] body)).getD ([], body)

/-- The lines of a text without the blanks at their ends. -/
def lines (s : String) : List String :=
  (s.splitOn "\n").map fun l =>
    String.ofList (Text.dropBlanks l.toList.reverse).reverse

/-- The section, if its labels agree and its headers and bytes can be read. -/
def Frame.read? (f : Frame) : Option Section := do
  let label ← Text.ofUtf8? f.label
  let endLabel ← Text.ofUtf8? f.endLabel
  let (headers, data) := splitHeaders f.body
  let headers ← Text.ofUtf8? headers
  let data ← Text.ofUtf8? data
  let bytes ← Text.Base64.decode? (String.join (lines data))
  if label ≠ "" ∧ label = endLabel ∧
      (headers = "" ∨ (lines headers).all fun l => l.toList.contains ':')
  then return ⟨label, bytes⟩
  else none

/-- The sections of a text, if all of them can be read. -/
def all? (bytes : List UInt8) : Option (List Section) :=
  (frames (bytes.length + 1) bytes).mapM Frame.read?

end Section

end FleetSync.Tls
