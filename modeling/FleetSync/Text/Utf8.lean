/-!
# Text from bytes

Bytes that are not UTF-8 are read with a replacement character for each maximal part that starts
like a character and does not go on as one.
-/
namespace FleetSync.Text

/-- U+FFFD, which stands for bytes that are no character. -/
def replacement : Char := '\uFFFD'

/-- The bounds of the second byte after each first byte of a longer character, and the number of
bytes that follow the first one. -/
def lead? (b : UInt8) : Option (UInt8 × UInt8 × Nat) :=
  if 0xC2 ≤ b && b ≤ 0xDF then some (0x80, 0xBF, 1)
  else if b == 0xE0 then some (0xA0, 0xBF, 2)
  else if b == 0xED then some (0x80, 0x9F, 2)
  else if 0xE1 ≤ b && b ≤ 0xEF then some (0x80, 0xBF, 2)
  else if b == 0xF0 then some (0x90, 0xBF, 3)
  else if 0xF1 ≤ b && b ≤ 0xF3 then some (0x80, 0xBF, 3)
  else if b == 0xF4 then some (0x80, 0x8F, 3)
  else none

/-- The payload of a first byte that `following` bytes follow. -/
def leadBits (b : UInt8) (following : Nat) : Nat := b.toNat % Nat.pow 2 (6 - following)

/-- A character under way: its bits so far, the bounds of the next byte and the number of bytes
that it still lacks. -/
structure Partial where
  bits : Nat
  lo : UInt8
  hi : UInt8
  missing : Nat

/-- What a byte that continues no character gives at once, and what it leaves unfinished. -/
def start (b : UInt8) : List Char × Option Partial :=
  if b < 0x80 then ([Char.ofNat b.toNat], none)
  else match lead? b with
    | some (lo, hi, n) => ([], some ⟨leadBits b n, lo, hi, n⟩)
    | none => ([replacement], none)

/-- What a byte gives after an unfinished character or none. -/
def advance : Option Partial → UInt8 → List Char × Option Partial
  | none, b => start b
  | some p, b =>
    if p.lo ≤ b && b ≤ p.hi then
      let bits := p.bits * 64 + b.toNat % 64
      if p.missing ≤ 1 then ([Char.ofNat bits], none)
      else ([], some ⟨bits, 0x80, 0xBF, p.missing - 1⟩)
    else (replacement :: (start b).1, (start b).2)

/-- The characters that the bytes spell, after an unfinished character or none. -/
def decodeFrom : Option Partial → List UInt8 → List Char
  | none, [] => []
  | some _, [] => [replacement]
  | p, b :: rest => (advance p b).1 ++ decodeFrom (advance p b).2 rest

def ofUtf8Lossy (bytes : List UInt8) : String := String.ofList (decodeFrom none bytes)

def toUtf8 (s : String) : List UInt8 := s.toUTF8.toList

/-- The text that bytes spell, if all of them are characters. -/
def ofUtf8? (bytes : List UInt8) : Option String := String.fromUTF8? ⟨bytes.toArray⟩

end FleetSync.Text
