import FleetSync.Text.Unprintable

/-!
# Quoted text

A text between double quotes, as messages quote names. A quote and a backslash follow a backslash,
the null character, tab, carriage return and line feed have letters of their own, and characters
without a glyph are written as their code point in braces. All else stands for itself.
-/
namespace FleetSync.Text

def quotedChar (c : Char) : List Char :=
  if c = '"' then ['\\', '"']
  else if c = '\\' then ['\\', '\\']
  else if c = '\t' then ['\\', 't']
  else if c = '\r' then ['\\', 'r']
  else if c = '\n' then ['\\', 'n']
  else if c = '\x00' then ['\\', '0']
  else if isUnprintable c then ['\\', 'u', '\x7b'] ++ Nat.toDigits 16 c.toNat ++ ['\x7d']
  else [c]

def quoted (s : String) : String :=
  String.ofList ('"' :: s.toList.flatMap quotedChar ++ ['"'])

end FleetSync.Text
