import FleetSync.Text.Utf8

/-!
# Characters and their bytes

The bytes of a text are read as that text: no character of it is taken for another one or for
bytes that are no character.
-/
namespace FleetSync.Text

/-- A byte of a character after its first one, with six bits of the character. -/
def following (n : Nat) : UInt8 := UInt8.ofNat (n % 64 + 128)

theorem toNat_following (n : Nat) : (following n).toNat = n % 64 + 128 := by
  unfold following
  rw [UInt8.toNat_ofNat']
  omega

/-- A byte within the bounds goes on with an unfinished character, or ends it. -/
theorem decodeFrom_following {bits n missing : Nat} {lo hi : UInt8} (rest : List UInt8)
    (hlo : lo.toNat ≤ n % 64 + 128) (hhi : n % 64 + 128 ≤ hi.toNat) :
    decodeFrom (some ⟨bits, lo, hi, missing⟩) (following n :: rest) =
      if missing ≤ 1 then Char.ofNat (bits * 64 + n % 64) :: decodeFrom none rest
      else decodeFrom (some ⟨bits * 64 + n % 64, 0x80, 0xBF, missing - 1⟩) rest := by
  have hmem : (lo ≤ following n && following n ≤ hi) = true := by
    simp only [Bool.and_eq_true, decide_eq_true_eq, UInt8.le_iff_toNat_le, toNat_following]
    exact ⟨hlo, hhi⟩
  have hpayload : (following n).toNat % 64 = n % 64 := by
    rw [toNat_following]
    omega
  have hstep : decodeFrom (some ⟨bits, lo, hi, missing⟩) (following n :: rest) =
      (advance (some ⟨bits, lo, hi, missing⟩) (following n)).1 ++
        decodeFrom (advance (some ⟨bits, lo, hi, missing⟩) (following n)).2 rest := rfl
  rw [hstep]
  unfold advance
  simp only [hmem, hpayload, if_true]
  split <;> rfl

/-- Only the byte after the first one can have narrower bounds. -/
theorem decodeFrom_inner {bits n missing : Nat} (rest : List UInt8) :
    decodeFrom (some ⟨bits, 0x80, 0xBF, missing⟩) (following n :: rest) =
      if missing ≤ 1 then Char.ofNat (bits * 64 + n % 64) :: decodeFrom none rest
      else decodeFrom (some ⟨bits * 64 + n % 64, 0x80, 0xBF, missing - 1⟩) rest := by
  apply decodeFrom_following rest
  · change 128 ≤ _
    omega
  · change _ ≤ 191
    omega

/-- A byte that begins a character of several bytes, with the first bits of the character, the
bounds of the next byte and the number of bytes that follow. -/
def Leads (b : UInt8) (bits : Nat) (lo hi : UInt8) (n : Nat) : Prop :=
  0x80 ≤ b.toNat ∧ lead? b = some (lo, hi, n) ∧ leadBits b n = bits

instance (b : UInt8) (bits : Nat) (lo hi : UInt8) (n : Nat) : Decidable (Leads b bits lo hi n) :=
  inferInstanceAs (Decidable (_ ∧ _ ∧ _))

theorem leads_two : ∀ v < 32, 2 ≤ v → Leads (UInt8.ofNat (v % 32 + 192)) v 0x80 0xBF 1 := by
  decide

theorem leads_three : ∀ v < 16, Leads (UInt8.ofNat (v % 16 + 224)) v
    (if v = 0 then 0xA0 else 0x80) (if v = 13 then 0x9F else 0xBF) 2 := by
  decide

theorem leads_four : ∀ v < 5, Leads (UInt8.ofNat (v % 8 + 240)) v
    (if v = 0 then 0x90 else 0x80) (if v = 4 then 0x8F else 0xBF) 3 := by
  decide

theorem decodeFrom_lead {b lo hi : UInt8} {bits n : Nat} (rest : List UInt8)
    (h : Leads b bits lo hi n) :
    decodeFrom none (b :: rest) = decodeFrom (some ⟨bits, lo, hi, n⟩) rest := by
  obtain ⟨hlong, hlead, rfl⟩ := h
  have hstep : decodeFrom none (b :: rest) = (start b).1 ++ decodeFrom (start b).2 rest := rfl
  have hnot : ¬b < 0x80 := by
    rw [UInt8.lt_iff_toNat_lt]
    exact Nat.not_lt.2 hlong
  rw [hstep]
  unfold start
  rw [if_neg hnot, hlead]
  rfl

theorem decodeFrom_ascii {v : Nat} (rest : List UInt8) (hv : v < 128) :
    decodeFrom none (UInt8.ofNat v :: rest) = Char.ofNat v :: decodeFrom none rest := by
  have hstep : decodeFrom none (UInt8.ofNat v :: rest) =
      (start (UInt8.ofNat v)).1 ++ decodeFrom (start (UInt8.ofNat v)).2 rest := rfl
  have hnat : (UInt8.ofNat v).toNat = v := UInt8.toNat_ofNat_of_lt' (by change v < 256; omega)
  have hlt : UInt8.ofNat v < 0x80 := by
    rw [UInt8.lt_iff_toNat_lt, hnat]
    exact hv
  rw [hstep]
  unfold start
  rw [if_pos hlt, hnat]
  rfl

theorem decodeFrom_utf8EncodeChar (c : Char) (rest : List UInt8) :
    decodeFrom none (String.utf8EncodeChar c ++ rest) = c :: decodeFrom none rest := by
  have hvalid : c.val.toNat < 55296 ∨ 57343 < c.val.toNat ∧ c.val.toNat < 1114112 := c.valid
  have hchar : Char.ofNat c.val.toNat = c := Char.ofNat_toNat c
  unfold String.utf8EncodeChar
  generalize c.val.toNat = v at *
  rw [← hchar]
  dsimp only
  split
  · exact decodeFrom_ascii rest (by omega)
  split
  · change decodeFrom none (UInt8.ofNat (v / 64 % 32 + 192) :: following v :: rest) = _
    have hbits : v / 64 * 64 + v % 64 = v := by omega
    rw [decodeFrom_lead _ (leads_two _ (by omega) (by omega)), decodeFrom_inner,
      if_pos (Nat.le_refl 1), hbits]
  split
  · change decodeFrom none (UInt8.ofNat (v / 4096 % 16 + 224) :: following (v / 64) ::
      following v :: rest) = _
    have hbits : (v / 4096 * 64 + v / 64 % 64) * 64 + v % 64 = v := by omega
    rw [decodeFrom_lead _ (leads_three _ (by omega)), decodeFrom_following, if_neg (by decide),
      decodeFrom_inner, if_pos (Nat.le_refl 1), hbits]
    · split
      · change 160 ≤ _
        omega
      · change 128 ≤ _
        omega
    · split
      · change _ ≤ 159
        omega
      · change _ ≤ 191
        omega
  · change decodeFrom none (UInt8.ofNat (v / 262144 % 8 + 240) :: following (v / 4096) ::
      following (v / 64) :: following v :: rest) = _
    have hbits : ((v / 262144 * 64 + v / 4096 % 64) * 64 + v / 64 % 64) * 64 + v % 64 = v := by
      omega
    rw [decodeFrom_lead _ (leads_four _ (by omega)), decodeFrom_following, if_neg (by decide),
      decodeFrom_inner, if_neg (by decide), decodeFrom_inner, if_pos (Nat.le_refl 1), hbits]
    · split
      · change 144 ≤ _
        omega
      · change 128 ≤ _
        omega
    · split
      · change _ ≤ 143
        omega
      · change _ ≤ 191
        omega

theorem decodeFrom_flatMap (cs : List Char) :
    decodeFrom none (cs.flatMap String.utf8EncodeChar) = cs := by
  induction cs with
  | nil => rfl
  | cons c cs ih => rw [List.flatMap_cons, decodeFrom_utf8EncodeChar, ih]

/-- The bytes from a position on, after those that were gathered, which stand in reverse. -/
theorem toList_loop (bytes : ByteArray) (i : Nat) (gathered : List UInt8) :
    ByteArray.toList.loop bytes i gathered = gathered.reverse ++ bytes.data.toList.drop i := by
  fun_induction ByteArray.toList.loop bytes i gathered with
  | case1 i gathered hlt ih =>
    have hi : i < bytes.data.toList.length := hlt
    have hget : bytes.get! i = bytes.data.toList[i] := getElem!_pos bytes.data i hlt
    rw [ih, List.drop_eq_getElem_cons hi, hget, List.reverse_cons, List.append_assoc]
    rfl
  | case2 i gathered hge =>
    have hi : bytes.data.toList.length ≤ i := Nat.not_lt.1 hge
    rw [List.drop_eq_nil_of_le hi, List.append_nil]

theorem toUtf8_eq (s : String) : toUtf8 s = s.toList.flatMap String.utf8EncodeChar := by
  have hbytes : s.toByteArray = (s.toList.flatMap String.utf8EncodeChar).toByteArray := by
    rw [← String.ofList_toList (s := s), String.toByteArray_ofList, String.toList_ofList]
    rfl
  unfold toUtf8
  rw [String.toUTF8_eq_toByteArray, hbytes]
  unfold ByteArray.toList
  rw [toList_loop, List.toList_data_toByteArray]
  rfl

theorem ofUtf8Lossy_toUtf8 (s : String) : ofUtf8Lossy (toUtf8 s) = s := by
  unfold ofUtf8Lossy
  rw [toUtf8_eq, decodeFrom_flatMap, String.ofList_toList]

end FleetSync.Text
