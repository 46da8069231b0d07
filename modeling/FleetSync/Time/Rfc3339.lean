import FleetSync.Time.Instant
import FleetSync.Text.Blank
import FleetSync.Text.Digits

/-!
# Instants as text

Instants are written as RFC 3339 in UTC with a `Z`, and with no, three, six or nine decimals of a
second, the fewest that are exact. They are read with any offset. Reading is lenient: numbers may
be short, blanks may stand before a number or a mark, the date and the time may be parted by a
blank, and `UTC` may stand for the offset.
-/
namespace FleetSync.Instant

def padded (width n : Nat) : String :=
  let ds := Nat.toDigits 10 n
  String.ofList (List.replicate (width - ds.length) '0' ++ ds)

/-- Four digits, or a sign and at least four digits outside the years 0 to 9999. -/
def yearText (year : Int) : String :=
  if 0 ≤ year ∧ year ≤ 9999 then padded 4 year.toNat
  else (if year < 0 then "-" else "+") ++ padded 4 year.natAbs

/-- The decimals of a second, as few groups of three as are exact. -/
def fractionText (nanos : Nat) : String :=
  if nanos = 0 then ""
  else if nanos % 1000000 = 0 then "." ++ padded 3 (nanos / 1000000)
  else if nanos % 1000 = 0 then "." ++ padded 6 (nanos / 1000)
  else "." ++ padded 9 nanos

def toRfc3339 (t : Instant) : String :=
  let date := t.date
  let second := t.secondOfDay
  let leap := if 1000000000 ≤ t.nanos then 1 else 0
  yearText date.year ++ "-" ++ padded 2 date.month ++ "-" ++ padded 2 date.day ++ "T" ++
    padded 2 (second / 3600) ++ ":" ++ padded 2 (second / 60 % 60) ++ ":" ++
    padded 2 (second % 60 + leap) ++ fractionText (t.nanos - leap * 1000000000) ++ "Z"

/-- The first and the last year of which an instant is read. -/
def firstYear : Int := -262143

def lastYear : Int := 262142

/-- The value of at most `width` digits at the front, at least one of them there. -/
def digits? (width : Nat) (cs : List Char) : Option (Nat × List Char) :=
  match (cs.take width).takeWhile Char.isDigit with
  | [] => none
  | ds => some (Text.digitsValue ds, cs.drop ds.length)

/-- A number of at most `width` digits after blanks, within bounds. -/
def field? (width lo hi : Nat) (cs : List Char) : Option (Nat × List Char) := do
  let (n, rest) ← digits? width (Text.dropBlanks cs)
  if lo ≤ n ∧ n ≤ hi then some (n, rest) else none

/-- A year: any number of digits after a sign, at most four without one. -/
def year? (cs : List Char) : Option (Int × List Char) :=
  match Text.dropBlanks cs with
  | '-' :: rest => (digits? rest.length rest).map fun r => (-(r.1 : Int), r.2)
  | '+' :: rest => (digits? rest.length rest).map fun r => ((r.1 : Int), r.2)
  | cs => (digits? 4 cs).map fun r => ((r.1 : Int), r.2)

/-- The rest after blanks and a mark. -/
def mark? (c : Char) (cs : List Char) : Option (List Char) :=
  match Text.dropBlanks cs with
  | d :: rest => if d = c then some rest else none
  | [] => none

/-- The nanoseconds of a fraction, if there is one; decimals beyond the ninth are dropped. -/
def fraction? : List Char → Option (Nat × List Char)
  | '.' :: rest =>
    match rest.takeWhile Char.isDigit with
    | [] => none
    | ds =>
      let kept := ds.take 9
      some (Text.digitsValue kept * Nat.pow 10 (9 - kept.length), rest.drop ds.length)
  | cs => some (0, cs)

private def digitValue? (c : Char) : Option Nat :=
  if c.isDigit then some (c.toNat - '0'.toNat) else none

def pair? : List Char → Option (Nat × List Char)
  | a :: b :: rest => do
    let a ← digitValue? a
    let b ← digitValue? b
    return (a * 10 + b, rest)
  | _ => none

/-- The hours and minutes of an offset, in seconds. -/
def offsetSize? (cs : List Char) : Option (Nat × List Char) := do
  let (hours, rest) ← pair? cs
  let (minutes, rest) ← pair? (rest.dropWhile fun c => c = ':' || Text.isBlank c)
  if minutes < 60 then some (hours * 3600 + minutes * 60, rest) else none

def offset? (cs : List Char) : Option (Int × List Char) :=
  match Text.dropBlanks cs with
  | [] => none
  | c :: rest =>
    if c = 'Z' ∨ c = 'z' then some (0, rest)
    else if c = '+' then (offsetSize? rest).map fun r => ((r.1 : Int), r.2)
    else if c = '-' ∨ c = '\u2212' then (offsetSize? rest).map fun r => (-(r.1 : Int), r.2)
    else match c :: rest with
      | u :: t :: z :: rest =>
        if (u.toUpper, t.toUpper, z.toUpper) = ('U', 'T', 'C') then some (0, rest) else none
      | _ => none

/-- The rest after the letter or the blank between a date and a time. -/
def separator? : List Char → Option (List Char)
  | c :: rest => if c = 'T' ∨ c = 't' ∨ c = ' ' then some rest else none
  | [] => none

/-- The instant of a date, a time of the day and an offset. -/
def ofCivil? (date : Calendar.Date) (hour minute second nanos : Nat) (offset : Int) :
    Option Instant :=
  if date.valid ∧ firstYear ≤ date.year ∧ date.year ≤ lastYear ∧ offset.natAbs < 86400 then do
    let whole := min second 59
    let seconds := Calendar.dayNumber date * 86400 + (hour * 3600 + minute * 60 + whole) - offset
    let t ← ofParts? seconds (nanos + (second - whole) * 1000000000)
    if firstYear ≤ t.date.year ∧ t.date.year ≤ lastYear then some t else none
  else none

def ofRfc3339? (text : String) : Option Instant := do
  let (year, cs) ← year? text.toList
  let cs ← mark? '-' cs
  let (month, cs) ← field? 2 1 12 cs
  let cs ← mark? '-' cs
  let (day, cs) ← field? 2 1 31 cs
  let cs ← separator? cs
  let (hour, cs) ← field? 2 0 23 cs
  let cs ← mark? ':' cs
  let (minute, cs) ← field? 2 0 59 cs
  let cs ← mark? ':' cs
  let (second, cs) ← field? 2 0 60 cs
  let (nanos, cs) ← fraction? cs
  let (offset, cs) ← offset? cs
  if (Text.dropBlanks cs).isEmpty then
    ofCivil? ⟨year, month, day⟩ hour minute second nanos offset
  else none

end FleetSync.Instant
