/-!
# Base64

The standard alphabet with mandatory padding. The unused bits of the last digit have to be zero,
so each sequence of bytes has one text and a text that is read was written for its bytes.
-/
namespace FleetSync.Text.Base64

def digit (n : Nat) : Char :=
  if n < 26 then Char.ofNat ('A'.toNat + n)
  else if n < 52 then Char.ofNat ('a'.toNat + (n - 26))
  else if n < 62 then Char.ofNat ('0'.toNat + (n - 52))
  else if n = 62 then '+'
  else '/'

def value? (c : Char) : Option Nat :=
  if 'A' ≤ c ∧ c ≤ 'Z' then some (c.toNat - 'A'.toNat)
  else if 'a' ≤ c ∧ c ≤ 'z' then some (c.toNat - 'a'.toNat + 26)
  else if '0' ≤ c ∧ c ≤ '9' then some (c.toNat - '0'.toNat + 52)
  else if c = '+' then some 62
  else if c = '/' then some 63
  else none

def encodeChars : List UInt8 → List Char
  | [] => []
  | [a] =>
    let n := a.toNat * 16
    [digit (n / 64), digit (n % 64), '=', '=']
  | [a, b] =>
    let n := (a.toNat * 256 + b.toNat) * 4
    [digit (n / 4096), digit (n / 64 % 64), digit (n % 64), '=']
  | a :: b :: c :: rest =>
    let n := (a.toNat * 256 + b.toNat) * 256 + c.toNat
    digit (n / 262144) :: digit (n / 4096 % 64) :: digit (n / 64 % 64) :: digit (n % 64) ::
      encodeChars rest

def decodeChars : List Char → Option (List UInt8)
  | [] => some []
  | [a, b, '=', '='] => do
    let n := (← value? a) * 64 + (← value? b)
    if n % 16 = 0 then some [(n / 16).toUInt8] else none
  | [a, b, c, '='] => do
    let n := ((← value? a) * 64 + (← value? b)) * 64 + (← value? c)
    if n % 4 = 0 then some [(n / 1024).toUInt8, (n / 4 % 256).toUInt8] else none
  | a :: b :: c :: d :: rest => do
    let n := (((← value? a) * 64 + (← value? b)) * 64 + (← value? c)) * 64 + (← value? d)
    let bytes ← decodeChars rest
    some ((n / 65536).toUInt8 :: (n / 256 % 256).toUInt8 :: (n % 256).toUInt8 :: bytes)
  | _ => none

def encode (bytes : List UInt8) : String := String.ofList (encodeChars bytes)

def decode? (text : String) : Option (List UInt8) := decodeChars text.toList

section Lemmas
variable {n a b c d : Nat}

theorem value?_digit (h : n < 64) : value? (digit n) = some n := by
  have hall : ∀ n : Fin 64, value? (digit n) = some n.val := by decide
  exact hall ⟨n, h⟩

theorem digit_ne_pad (h : n < 64) : digit n ≠ '=' := by
  intro hpad
  have hvalue := value?_digit h
  rw [hpad] at hvalue
  cases hvalue

theorem decodeChars_digits (ha : a < 64) (hb : b < 64) (hc : c < 64) (hd : d < 64)
    (rest : List Char) :
    decodeChars (digit a :: digit b :: digit c :: digit d :: rest) =
      (decodeChars rest).map fun bytes =>
        let n := ((a * 64 + b) * 64 + c) * 64 + d
        (n / 65536).toUInt8 :: (n / 256 % 256).toUInt8 :: (n % 256).toUInt8 :: bytes := by
  rw [decodeChars]
  · simp only [value?_digit, ha, hb, hc, hd]
    cases decodeChars rest <;> rfl
  · exact fun _ hpad _ => digit_ne_pad hd hpad
  · exact fun hpad _ => digit_ne_pad hd hpad

theorem decodeChars_pad (ha : a < 64) (hb : b < 64) (hc : c < 64)
    (h : ((a * 64 + b) * 64 + c) % 4 = 0) :
    decodeChars [digit a, digit b, digit c, '='] =
      let n := (a * 64 + b) * 64 + c
      some [(n / 1024).toUInt8, (n / 4 % 256).toUInt8] := by
  rw [decodeChars]
  · simp [value?_digit, ha, hb, hc, h]
  · exact fun hpad => digit_ne_pad hc hpad

theorem decodeChars_pads (ha : a < 64) (hb : b < 64) (h : (a * 64 + b) % 16 = 0) :
    decodeChars [digit a, digit b, '=', '='] = some [((a * 64 + b) / 16).toUInt8] := by
  simp [decodeChars, value?_digit, ha, hb, h]

theorem decodeChars_encodeChars (bytes : List UInt8) :
    decodeChars (encodeChars bytes) = some bytes := by
  fun_induction encodeChars bytes with
  | case1 => rfl
  | case2 a n =>
    have ha := a.toNat_lt
    rw [decodeChars_pads (by omega) (by omega) (by omega)]
    have hn : (n / 64 * 64 + n % 64) / 16 = a.toNat := by omega
    simp [hn]
  | case3 a b n =>
    have ha := a.toNat_lt
    have hb := b.toNat_lt
    rw [decodeChars_pad (by omega) (by omega) (by omega) (by omega)]
    have hn : (n / 4096 * 64 + n / 64 % 64) * 64 + n % 64 = n := by omega
    have hfirst : n / 1024 = a.toNat := by omega
    have hsecond : n / 4 % 256 = b.toNat := by omega
    simp [hn, hfirst, hsecond]
  | case4 a b c rest n ih =>
    have ha := a.toNat_lt
    have hb := b.toNat_lt
    have hc := c.toNat_lt
    rw [decodeChars_digits (by omega) (by omega) (by omega) (by omega), ih]
    have hn : ((n / 262144 * 64 + n / 4096 % 64) * 64 + n / 64 % 64) * 64 + n % 64 = n := by omega
    have hfirst : n / 65536 = a.toNat := by omega
    have hsecond : n / 256 % 256 = b.toNat := by omega
    have hthird : n % 256 = c.toNat := by omega
    simp [hn, hfirst, hsecond, hthird]

theorem decode?_encode (bytes : List UInt8) : decode? (encode bytes) = some bytes := by
  unfold decode? encode
  rw [String.toList_ofList, decodeChars_encodeChars]

end Lemmas

end FleetSync.Text.Base64
