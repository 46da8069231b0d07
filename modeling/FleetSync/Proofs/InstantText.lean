import Mathlib.Data.List.TakeWhile
import FleetSync.Time.Rfc3339
import FleetSync.Proofs.Calendar

/-!
# Instants are read as they are written

An instant of the years 0 to 9999, a leap second among them, is read back from its text: each of
its numbers is written with all its digits, the decimals of a second in groups of three that drop
no more than zeros, and the date with the time of the day gives the instant back.
-/
namespace FleetSync

theorem Text.digitsValue_eq (cs : List Char) : digitsValue cs = Nat.ofDigitChars 10 cs 0 := by
  unfold digitsValue Nat.ofDigitChars
  congr 1
  funext n c
  rw [Nat.mul_comm]

theorem Text.not_isBlank_of_isDigit {c : Char} (h : c.isDigit) : isBlank c = false := by
  have hbounds : 48 ≤ c.toNat ∧ c.toNat ≤ 57 := by
    simpa [Char.isDigit, UInt32.le_iff_toNat_le] using h
  simp only [isBlank, Bool.or_eq_false_iff, Bool.and_eq_false_iff, decide_eq_false_iff_not,
    beq_eq_false_iff_ne]
  omega

theorem Text.dropBlanks_of_isDigit {c : Char} {cs : List Char} (h : c.isDigit) :
    dropBlanks (c :: cs) = c :: cs :=
  List.dropWhile_cons_of_neg (by simp [not_isBlank_of_isDigit h])

namespace Instant

/-- A number in exactly so many digits. -/
structure Spells (cs : List Char) (width n : Nat) : Prop where
  length_eq : cs.length = width
  isDigit : ∀ c ∈ cs, c.isDigit
  value_eq : Text.digitsValue cs = n

theorem spells_padded {width n : Nat} (hwidth : 0 < width) (hn : n < Nat.pow 10 width) :
    Spells (padded width n).toList width n := by
  have hlength := (Nat.length_toDigits_le_iff (b := 10) (by decide) hwidth).2 hn
  unfold padded
  rw [String.toList_ofList]
  refine ⟨by simp; omega, fun c hc => ?_, ?_⟩
  · rcases List.mem_append.1 hc with hc | hc
    · rw [List.eq_of_mem_replicate hc]
      rfl
    · exact Nat.isDigit_of_mem_toDigits (by decide) (by decide) hc
  · rw [Text.digitsValue_eq, Nat.ofDigitChars_append, Nat.ofDigitChars_replicate_zero,
      Nat.mul_zero, Nat.ofDigitChars_toDigits (by decide) (by decide)]

section Spelled
variable {cs rest : List Char} {width n : Nat}

theorem Spells.exists_cons (h : Spells cs (width + 1) n) :
    ∃ c cs', cs = c :: cs' ∧ c.isDigit := by
  cases cs with
  | nil => cases h.length_eq
  | cons c cs' => exact ⟨c, cs', rfl, h.isDigit c List.mem_cons_self⟩

theorem Spells.digits? (h : Spells cs (width + 1) n) (rest : List Char) :
    digits? (width + 1) (cs ++ rest) = some (n, rest) := by
  have htake : ((cs ++ rest).take (width + 1)).takeWhile Char.isDigit = cs := by
    rw [List.take_left' h.length_eq]
    exact List.takeWhile_eq_self_iff.2 h.isDigit
  obtain ⟨c, cs', rfl, -⟩ := h.exists_cons
  unfold Instant.digits?
  rw [htake]
  dsimp only
  rw [h.value_eq, List.drop_left]

theorem Spells.year? (h : Spells cs 4 n) : year? (cs ++ rest) = some ((n : Int), rest) := by
  have hdigits := h.digits? rest
  obtain ⟨c, cs', rfl, hc⟩ := h.exists_cons
  unfold Instant.year?
  rw [List.cons_append, Text.dropBlanks_of_isDigit hc]
  split
  · rename_i hminus
    cases hminus
    cases hc
  · rename_i hplus
    cases hplus
    cases hc
  · rw [← List.cons_append, hdigits]
    rfl

theorem Spells.field? (h : Spells cs (width + 1) n) {lo hi : Nat} (hlo : lo ≤ n) (hhi : n ≤ hi) :
    field? (width + 1) lo hi (cs ++ rest) = some (n, rest) := by
  have hdigits := h.digits? rest
  obtain ⟨c, cs', rfl, hc⟩ := h.exists_cons
  unfold Instant.field?
  rw [List.cons_append, Text.dropBlanks_of_isDigit hc, ← List.cons_append, hdigits]
  exact if_pos ⟨hlo, hhi⟩

theorem mark?_cons {c : Char} (h : Text.isBlank c = false) : mark? c (c :: rest) = some rest := by
  have hdrop : Text.dropBlanks (c :: rest) = c :: rest :=
    List.dropWhile_cons_of_neg (by simp [h])
  unfold mark?
  rw [hdrop]
  exact if_pos rfl

/-- Decimals are read up to the mark after them, and as if zeros filled the nine places. -/
theorem Spells.fraction? (h : Spells cs (width + 1) n) (hwidth : width + 1 ≤ 9) :
    fraction? ('.' :: (cs ++ ['Z'])) = some (n * Nat.pow 10 (9 - (width + 1)), ['Z']) := by
  have htake : (cs ++ ['Z']).takeWhile Char.isDigit = cs := by
    rw [List.takeWhile_append_of_pos h.isDigit]
    exact List.append_nil cs
  have hkept : cs.take 9 = cs := List.take_of_length_le (h.length_eq ▸ hwidth)
  have hlength := h.length_eq
  obtain ⟨c, cs', rfl, -⟩ := h.exists_cons
  rw [Instant.fraction?, htake]
  dsimp only
  rw [hkept, h.value_eq, hlength, ← hlength, List.drop_left]

end Spelled

/-- A fraction in groups of three digits. -/
theorem fraction?_padded {width n nanos : Nat} (hwidth : width + 1 ≤ 9)
    (hn : n < Nat.pow 10 (width + 1)) (hnanos : n * Nat.pow 10 (9 - (width + 1)) = nanos) :
    fraction? (("." ++ padded (width + 1) n).toList ++ ['Z']) = some (nanos, ['Z']) := by
  rw [String.toList_append, ← hnanos]
  exact (spells_padded (Nat.succ_pos width) hn).fraction? hwidth

theorem fraction?_fractionText {nanos : Nat} (h : nanos < 1000000000) :
    fraction? ((fractionText nanos).toList ++ ['Z']) = some (nanos, ['Z']) := by
  unfold fractionText
  split
  · rename_i hzero
    rw [hzero]
    rfl
  split
  · rename_i hmillis
    have hbound : nanos / 1000000 < 1000 := by omega
    have hwhole : nanos / 1000000 * 1000000 = nanos := by omega
    exact fraction?_padded (by decide) hbound hwhole
  split
  · rename_i hmicros
    have hbound : nanos / 1000 < 1000000 := by omega
    have hwhole : nanos / 1000 * 1000 = nanos := by omega
    exact fraction?_padded (by decide) hbound hwhole
  · exact fraction?_padded (by decide) h (Nat.mul_one nanos)

/-- The seconds of a minute that is written with a leap second at its end. -/
def leapSecond (t : Instant) : Nat := if 1000000000 ≤ t.nanos then 1 else 0

theorem leapSecond_le (t : Instant) : t.leapSecond ≤ 1 := by
  unfold leapSecond
  split <;> omega

/-- The nanoseconds that are written after a leap second are those of its own. -/
theorem writtenNanos_lt (t : Instant) : t.nanos - t.leapSecond * 1000000000 < 1000000000 := by
  have hlt := t.nanos_lt
  unfold leapSecond
  split <;> omega

theorem natCast_secondOfDay (t : Instant) : (t.secondOfDay : Int) = t.seconds % 86400 := by
  unfold secondOfDay
  omega

theorem secondOfDay_lt (t : Instant) : t.secondOfDay < 86400 := by
  have hday := t.natCast_secondOfDay
  omega

theorem toList_toRfc3339 {t : Instant} (hyear : 0 ≤ t.date.year ∧ t.date.year ≤ 9999) :
    t.toRfc3339.toList = (padded 4 t.date.year.toNat).toList ++ '-' ::
      ((padded 2 t.date.month).toList ++ '-' :: ((padded 2 t.date.day).toList ++ 'T' ::
      ((padded 2 (t.secondOfDay / 3600)).toList ++ ':' ::
      ((padded 2 (t.secondOfDay / 60 % 60)).toList ++ ':' ::
      ((padded 2 (t.secondOfDay % 60 + t.leapSecond)).toList ++
      ((fractionText (t.nanos - t.leapSecond * 1000000000)).toList ++ ['Z'])))))) := by
  unfold toRfc3339 yearText
  dsimp only
  rw [if_pos hyear]
  simp [leapSecond]

/-- The date, the time of the day and the fraction of an instant give it back. -/
theorem ofCivil?_date {t : Instant} (hyear : 0 ≤ t.date.year ∧ t.date.year ≤ 9999) :
    ofCivil? t.date (t.secondOfDay / 3600) (t.secondOfDay / 60 % 60)
      (t.secondOfDay % 60 + t.leapSecond) (t.nanos - t.leapSecond * 1000000000) 0 = some t := by
  have hvalid : t.date.valid := Calendar.valid_date _
  have hnumber : Calendar.dayNumber t.date = t.seconds / 86400 := Calendar.dayNumber_date _
  have hday := t.natCast_secondOfDay
  have hrange : firstYear ≤ t.date.year ∧ t.date.year ≤ lastYear := by
    unfold firstYear lastYear
    omega
  have hinstant : ofParts? t.seconds t.nanos = some t := dif_pos ⟨t.nanos_lt, t.leap⟩
  generalize hwhole : min (t.secondOfDay % 60 + t.leapSecond) 59 = whole
  have hseconds : t.seconds / 86400 * 86400 + ((t.secondOfDay / 3600 : Nat) * 3600 +
      (t.secondOfDay / 60 % 60 : Nat) * 60 + whole) - 0 = t.seconds := by
    unfold leapSecond at hwhole
    by_cases hleap : 1000000000 ≤ t.nanos
    · have hlast := t.leap hleap
      rw [if_pos hleap] at hwhole
      omega
    · rw [if_neg hleap] at hwhole
      omega
  have hnanos : t.nanos - t.leapSecond * 1000000000 +
      (t.secondOfDay % 60 + t.leapSecond - whole) * 1000000000 = t.nanos := by
    unfold leapSecond at hwhole ⊢
    by_cases hleap : 1000000000 ≤ t.nanos
    · have hlast := t.leap hleap
      rw [if_pos hleap] at hwhole ⊢
      omega
    · rw [if_neg hleap] at hwhole ⊢
      omega
  unfold ofCivil?
  rw [if_pos ⟨hvalid, hrange.1, hrange.2, by decide⟩]
  dsimp only
  rw [hnumber, hwhole, hseconds, hnanos, hinstant]
  exact if_pos hrange

/-- The numbers of a text in UTC are read one after the other. -/
theorem ofRfc3339?_of_toList {text : String} {year month day hour minute second nanos : Nat}
    (hyear : year < 10000) (hmonth : 1 ≤ month ∧ month ≤ 12) (hday : 1 ≤ day ∧ day ≤ 31)
    (hhour : hour ≤ 23) (hminute : minute ≤ 59) (hsecond : second ≤ 60)
    (hnanos : nanos < 1000000000)
    (htext : text.toList = (padded 4 year).toList ++ '-' :: ((padded 2 month).toList ++ '-' ::
      ((padded 2 day).toList ++ 'T' :: ((padded 2 hour).toList ++ ':' ::
      ((padded 2 minute).toList ++ ':' :: ((padded 2 second).toList ++
      ((fractionText nanos).toList ++ ['Z']))))))) :
    ofRfc3339? text = ofCivil? ⟨year, month, day⟩ hour minute second nanos 0 := by
  have hyearRead (rest : List Char) :
      year? ((padded 4 year).toList ++ rest) = some ((year : Int), rest) :=
    Spells.year? (spells_padded (by decide) hyear)
  have hfield {n lo hi : Nat} (hlo : lo ≤ n) (hhi : n ≤ hi) (hn : n < 100) (rest : List Char) :
      field? 2 lo hi ((padded 2 n).toList ++ rest) = some (n, rest) :=
    Spells.field? (spells_padded (by decide) hn) hlo hhi
  have hdash (rest : List Char) : mark? '-' ('-' :: rest) = some rest := mark?_cons (by decide)
  have hcolon (rest : List Char) : mark? ':' (':' :: rest) = some rest := mark?_cons (by decide)
  have hT (rest : List Char) : separator? ('T' :: rest) = some rest := rfl
  have hoffset : offset? ['Z'] = some (0, []) := by decide
  have hfraction := fraction?_fractionText hnanos
  unfold ofRfc3339?
  simp only [htext, Option.bind_eq_bind, Option.bind_some, hyearRead, hdash, hT, hcolon, hoffset,
    hfield hmonth.1 hmonth.2 (by omega), hfield hday.1 hday.2 (by omega),
    hfield (Nat.zero_le _) hhour (by omega), hfield (Nat.zero_le _) hminute (by omega),
    hfield (Nat.zero_le _) hsecond (by omega), hfraction]
  exact if_pos rfl

/-- An instant of the years 0 to 9999 is read back from its text. -/
theorem ofRfc3339?_toRfc3339 {t : Instant} (hyear : 0 ≤ t.date.year ∧ t.date.year ≤ 9999) :
    ofRfc3339? t.toRfc3339 = some t := by
  have hvalid : t.date.valid := Calendar.valid_date _
  obtain ⟨hmonth, hday⟩ := Calendar.bounds_of_valid hvalid
  have hsecond := t.secondOfDay_lt
  have hleap := t.leapSecond_le
  rw [ofRfc3339?_of_toList (by omega) hmonth hday (by omega) (by omega) (by omega) t.writtenNanos_lt
    (toList_toRfc3339 hyear), Int.toNat_of_nonneg hyear.1]
  exact ofCivil?_date hyear

/-- The leap second at the end of 2016 and half a second of it. -/
example : (ofRfc3339? "2016-12-31T23:59:60.5Z").map toRfc3339 =
    some "2016-12-31T23:59:60.500Z" := by
  decide +kernel

end Instant

end FleetSync
