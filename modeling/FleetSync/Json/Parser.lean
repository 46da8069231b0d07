import FleetSync.Json.Basic
import FleetSync.Number.Decimal

/-!
# Reading JSON text

A text is one value with blanks around it. Leading zeros, unescaped control characters and commas at
an end are refused. Half of a surrogate pair and a number beyond all doubles are no reason to refuse
a text: they make a value that cannot be read. Each step passes on a strictly shorter rest, so the
number of characters bounds the depth of the recursion.
-/
namespace FleetSync.Json

def skipBlanks : List Char → List Char
  | c :: rest => if c = ' ' ∨ c = '\t' ∨ c = '\n' ∨ c = '\r' then skipBlanks rest else c :: rest
  | [] => []

def dropWord : List Char → List Char → Option (List Char)
  | [], cs => some cs
  | w :: ws, c :: cs => if w = c then dropWord ws cs else none
  | _ :: _, [] => none

def hexValue? (c : Char) : Option Nat :=
  if '0' ≤ c ∧ c ≤ '9' then some (c.toNat - '0'.toNat)
  else if 'a' ≤ c ∧ c ≤ 'f' then some (c.toNat - 'a'.toNat + 10)
  else if 'A' ≤ c ∧ c ≤ 'F' then some (c.toNat - 'A'.toNat + 10)
  else none

def hexUnit? : List Char → Option (Nat × List Char)
  | a :: b :: c :: d :: rest => do
    let a ← hexValue? a
    let b ← hexValue? b
    let c ← hexValue? c
    let d ← hexValue? d
    return (((a * 16 + b) * 16 + c) * 16 + d, rest)
  | _ => none

/-- The character of an escape, whose backslash has been read, or `none` for half of a surrogate
pair. -/
def escaped? : List Char → Option (Option Char × List Char)
  | '"' :: rest => some (some '"', rest)
  | '\\' :: rest => some (some '\\', rest)
  | '/' :: rest => some (some '/', rest)
  | 'b' :: rest => some (some '\x08', rest)
  | 'f' :: rest => some (some '\x0c', rest)
  | 'n' :: rest => some (some '\n', rest)
  | 'r' :: rest => some (some '\r', rest)
  | 't' :: rest => some (some '\t', rest)
  | 'u' :: rest => do
    let (unit, rest) ← hexUnit? rest
    if unit < 0xD800 ∨ 0xE000 ≤ unit then return (some (Char.ofNat unit), rest)
    else
      let low := match rest with
        | '\\' :: 'u' :: rest => hexUnit? rest
        | _ => none
      match low with
      | some (low, after) =>
        if unit < 0xDC00 ∧ 0xDC00 ≤ low ∧ low < 0xE000 then
          return (some (Char.ofNat (0x10000 + (unit - 0xD800) * 0x400 + (low - 0xDC00))), after)
        else return (none, rest)
      | none => return (none, rest)
  | _ => none

/-- The characters up to the closing quote, collected in reverse; there is no text if some of them
stand for nothing. -/
def stringChars? : Nat → Option (List Char) → List Char → Option (Option String × List Char)
  | 0, _, _ => none
  | _ + 1, _, [] => none
  | fuel + 1, read, c :: rest =>
    if c = '"' then some (read.map fun cs => String.ofList cs.reverse, rest)
    else if c = '\\' then
      match escaped? rest with
      | some (e, rest) => stringChars? fuel (e.bind fun e => read.map (e :: ·)) rest
      | none => none
    else if c.toNat < 0x20 then none
    else stringChars? fuel (read.map (c :: ·)) rest

/-- The digits of the whole part: a single zero, or digits that start with none. -/
def wholePart? (cs : List Char) : Option (List Char × List Char) :=
  match cs.takeWhile Char.isDigit with
  | [] => none
  | ['0'] => some (['0'], cs.drop 1)
  | '0' :: _ => none
  | ds => some (ds, cs.drop ds.length)

/-- A number without its sign: an integer, or its digits and exponent. -/
def unsignedNumber? (cs : List Char) : Option ((Nat × Option Int) × List Char) := do
  let (whole, rest) ← wholePart? cs
  let (fraction, rest) ← match rest with
    | '.' :: rest =>
      match rest.takeWhile Char.isDigit with
      | [] => none
      | ds => some (some ds, rest.drop ds.length)
    | _ => some (none, rest)
  let (exponent, rest) ← match rest with
    | c :: rest' =>
      if c = 'e' ∨ c = 'E' then
        let (negative, rest') := match rest' with
          | '-' :: r => (true, r)
          | '+' :: r => (false, r)
          | r => (false, r)
        match rest'.takeWhile Char.isDigit with
        | [] => none
        | ds =>
          let n : Int := Text.digitsValue ds
          some (some (if negative then -n else n), rest'.drop ds.length)
      else some (none, rest)
    | [] => some (none, rest)
  match fraction, exponent with
  | none, none => return ((Text.digitsValue whole, none), rest)
  | _, _ =>
    let ds := fraction.getD []
    return ((Text.digitsValue (whole ++ ds), some (exponent.getD 0 - ds.length)), rest)

/-- An integer of 64 bits, with a sign or without. -/
def isInt64 (n : Int) : Bool := decide (-9223372036854775808 ≤ n ∧ n < UInt64.size)

/-- The number of these digits and this exponent, if some double is near it. -/
def ofDecimal (digits exponent : Int) : Json :=
  if (⟨false, digits.natAbs, exponent⟩ : Decimal).isDouble then .decimal digits exponent
  else .unreadable

def number? (cs : List Char) : Option (Json × List Char) :=
  let (negative, cs) := match cs with
    | '-' :: rest => (true, rest)
    | _ => (false, cs)
  (unsignedNumber? cs).map fun r =>
    let signed : Int := if negative then -(r.1.1 : Int) else r.1.1
    match r.1.2 with
    | some e => (ofDecimal signed e, r.2)
    | none =>
      if isInt64 signed ∧ ¬(negative ∧ signed = 0) then (.int signed, r.2)
      else (ofDecimal signed 0, r.2)

/-- The object of these fields, unless one of its names stands for nothing. -/
def ofFields (fields : List (Option String × Json)) : Json :=
  match fields.mapM fun f => f.1.map fun name => (name, f.2) with
  | some fields => .obj fields
  | none => .unreadable

mutual

def value? : Nat → List Char → Option (Json × List Char)
  | 0, _ => none
  | fuel + 1, cs =>
    match skipBlanks cs with
    | '"' :: rest =>
      (stringChars? (rest.length + 1) (some []) rest).map fun r =>
        (r.1.elim .unreadable .str, r.2)
    | '[' :: rest =>
      match skipBlanks rest with
      | ']' :: rest => some (.arr [], rest)
      | rest => (items? fuel [] rest).map fun r => (.arr r.1, r.2)
    | '\x7b' :: rest =>
      match skipBlanks rest with
      | '\x7d' :: rest => some (.obj [], rest)
      | rest => (fields? fuel [] rest).map fun r => (ofFields r.1, r.2)
    | 't' :: rest => (dropWord ['r', 'u', 'e'] rest).map fun r => (.bool true, r)
    | 'f' :: rest => (dropWord ['a', 'l', 's', 'e'] rest).map fun r => (.bool false, r)
    | 'n' :: rest => (dropWord ['u', 'l', 'l'] rest).map fun r => (.null, r)
    | cs => number? cs

/-- The items of a list up to its end, collected in reverse. -/
def items? : Nat → List Json → List Char → Option (List Json × List Char)
  | 0, _, _ => none
  | fuel + 1, read, cs =>
    match value? fuel cs with
    | none => none
    | some (j, rest) =>
      match skipBlanks rest with
      | ',' :: rest => items? fuel (j :: read) rest
      | ']' :: rest => some ((j :: read).reverse, rest)
      | _ => none

/-- The fields of an object up to its end, collected in reverse. -/
def fields? : Nat → List (Option String × Json) → List Char →
    Option (List (Option String × Json) × List Char)
  | 0, _, _ => none
  | fuel + 1, read, cs =>
    match skipBlanks cs with
    | '"' :: rest =>
      match stringChars? (rest.length + 1) (some []) rest with
      | none => none
      | some (name, rest) =>
        match skipBlanks rest with
        | ':' :: rest =>
          match value? fuel rest with
          | none => none
          | some (j, rest) =>
            match skipBlanks rest with
            | ',' :: rest => fields? fuel ((name, j) :: read) rest
            | '\x7d' :: rest => some (((name, j) :: read).reverse, rest)
            | _ => none
        | _ => none
    | _ => none

end

def read? (text : String) : Option Json :=
  let cs := text.toList
  match value? (cs.length + 1) cs with
  | some (j, rest) => if (skipBlanks rest).isEmpty then some j else none
  | none => none

/-- The settled document of a text. -/
def parse? (text : String) : Option Json := (read? text).bind settled?

end FleetSync.Json
