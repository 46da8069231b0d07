import FleetSync.Text.Utf8

/-!
# Form encoding

Text as a value of a query: letters, digits and four marks stand for themselves, a blank is a plus
sign, and each byte of any other character is a percent sign with two hexadecimal digits.
-/
namespace FleetSync.Text

private def upperHex (n : Nat) : Char :=
  if n < 10 then Char.ofNat ('0'.toNat + n) else Char.ofNat ('A'.toNat + (n - 10))

def formByte (b : UInt8) : List Char :=
  let c := Char.ofNat b.toNat
  if b < 0x80 && (c.isAlphanum || c == '*' || c == '-' || c == '.' || c == '_') then [c]
  else if c = ' ' then ['+']
  else ['%', upperHex (b.toNat / 16), upperHex (b.toNat % 16)]

def formEncoded (s : String) : String := String.ofList ((toUtf8 s).flatMap formByte)

end FleetSync.Text
