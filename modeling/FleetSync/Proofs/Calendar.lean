import FleetSync.Time.Calendar

/-!
# Days and dates

Every day number is that of its date, and its date is one of the calendar. A day is located by its
era, the year of the era, which begins in March, and the day of that year.
-/
namespace FleetSync.Calendar

/-- The days before a year of an era. -/
def daysBefore (yearOfEra : Int) : Int := 365 * yearOfEra + yearOfEra / 4 - yearOfEra / 100

/-- A day of an era lies in the year that is computed for it; only a leap year, which is the one
before a year with a leap day, has a day 365. -/
theorem dayOfYear_bounds {d y : Int} (hpos : 0 ≤ d) (hlt : d < 146097)
    (hy : y = (d - d / 1460 + d / 36524 - d / 146096) / 365) :
    0 ≤ y ∧ y < 400 ∧ 0 ≤ d - daysBefore y ∧ d - daysBefore y ≤ 365 ∧
      (d - daysBefore y = 365 → isLeap (y + 1)) := by
  by_cases hlast : d = 146096
  · subst hlast hy
    decide
  · -- the day is taken apart into centuries, groups of four years and the days of such a group
    obtain ⟨c, q, f, hd, hc, hq, hf, hcut⟩ : ∃ c q f : Int, d = 36524 * c + 1461 * q + f ∧
        (0 ≤ c ∧ c ≤ 3) ∧ (0 ≤ q ∧ q ≤ 24) ∧ (0 ≤ f ∧ f ≤ 1460) ∧ (q = 24 → f ≤ 1459) :=
      ⟨d / 36524, d % 36524 / 1461, d % 36524 % 1461, by omega, by omega, by omega, by omega,
        by omega⟩
    have hcenturies : d / 36524 = c := by omega
    have hera : d / 146096 = 0 := by omega
    have hgroups : d / 1460 = 25 * c + q + if 1460 ≤ 24 * c + q + f then 1 else 0 := by
      split <;> omega
    obtain ⟨r, hr, hyears⟩ : ∃ r : Int, (0 ≤ r ∧ r ≤ 3 ∧ 365 * r ≤ f ∧ (f < 365 * r + 365 ∨ r = 3)) ∧
        y = 100 * c + 4 * q + r := by
      refine ⟨min (f / 365) 3, by omega, ?_⟩
      rw [hy, hcenturies, hera, hgroups]
      split <;> omega
    have hbefore : daysBefore y = 36524 * c + 1461 * q + 365 * r := by
      have hquarters : y / 4 = 25 * c + q := by omega
      have hhundreds : y / 100 = c := by omega
      rw [daysBefore, hquarters, hhundreds, hyears]
      omega
    rw [hbefore]
    refine ⟨by omega, by omega, by omega, by omega, fun hlong => ?_⟩
    simp only [isLeap, Bool.and_eq_true, Bool.or_eq_true, decide_eq_true_eq]
    omega

/-- The date of a day of a year that begins in March. -/
def ofDayOfYear (year dayOfYear : Int) : Date :=
  let m := (5 * dayOfYear + 2) / 153
  let month := if m < 10 then m + 3 else m - 9
  ⟨if month ≤ 2 then year + 1 else year, month.toNat,
    (dayOfYear - (153 * m + 2) / 5 + 1).toNat⟩

/-- A day has its place in a year of an era. -/
theorem exists_dayOfYear (n : Int) : ∃ era y doy : Int, (0 ≤ y ∧ y < 400) ∧
    (0 ≤ doy ∧ doy ≤ 365 ∧ (doy = 365 → isLeap (y + 1))) ∧
    n + 719468 = era * 146097 + daysBefore y + doy ∧
    date n = ofDayOfYear (y + era * 400) doy := by
  obtain ⟨hy, hy', hdoy, hdoy', hleap⟩ := dayOfYear_bounds (d := (n + 719468) % 146097) (by omega)
    (by omega) rfl
  exact ⟨(n + 719468) / 146097, _, _, ⟨hy, hy'⟩, ⟨hdoy, hdoy', hleap⟩, by omega, rfl⟩

theorem dayNumber_ofDayOfYear {y doy : Int} (hy : 0 ≤ y) (hy' : y < 400) (hdoy : 0 ≤ doy)
    (hdoy' : doy ≤ 365) (era : Int) :
    dayNumber (ofDayOfYear (y + era * 400) doy) =
      era * 146097 + daysBefore y + doy - 719468 := by
  unfold dayNumber ofDayOfYear daysBefore
  dsimp only
  have hm : 0 ≤ (5 * doy + 2) / 153 ∧ (5 * doy + 2) / 153 ≤ 11 := by omega
  generalize hmonth : (5 * doy + 2) / 153 = m at *
  have hday : 0 ≤ doy - (153 * m + 2) / 5 := by omega
  by_cases hlate : m < 10
  · have hmarch : ¬(m + 3).toNat ≤ 2 := by omega
    have hmarch' : ¬m + 3 ≤ 2 := by omega
    have hmod : (y + era * 400) % 400 = y := by omega
    have hdiv : (y + era * 400) / 400 = era := by omega
    simp only [if_pos hlate, if_neg hmarch, if_neg hmarch', hmod, hdiv]
    omega
  · have hjanuary : (m - 9).toNat ≤ 2 := by omega
    have hjanuary' : m - 9 ≤ 2 := by omega
    have hyear : y + era * 400 + 1 - 1 = y + era * 400 := by omega
    have hmod : (y + era * 400) % 400 = y := by omega
    have hdiv : (y + era * 400) / 400 = era := by omega
    simp only [if_neg hlate, if_pos hjanuary, if_pos hjanuary', hyear, hmod, hdiv]
    omega

theorem dayNumber_date (n : Int) : dayNumber (date n) = n := by
  obtain ⟨era, y, doy, ⟨hy, hy'⟩, ⟨hdoy, hdoy', -⟩, hn, hdate⟩ := exists_dayOfYear n
  rw [hdate, dayNumber_ofDayOfYear hy hy' hdoy hdoy']
  omega

theorem isLeap_add_era (y era : Int) : isLeap (y + era * 400) = isLeap y := by
  have h4 : (y + era * 400) % 4 = y % 4 := by omega
  have h100 : (y + era * 400) % 100 = y % 100 := by omega
  have h400 : (y + era * 400) % 400 = y % 400 := by omega
  simp only [isLeap, h4, h100, h400]

/-- Each day of such a year has a date of the calendar; only a leap year has a day 365. -/
theorem valid_ofDayOfYear {year doy : Int} (hdoy : 0 ≤ doy) (hdoy' : doy ≤ 365)
    (hleap : doy = 365 → isLeap (year + 1)) : (ofDayOfYear year doy).valid := by
  generalize hmonth : (5 * doy + 2) / 153 = m
  have hm : m = 0 ∨ m = 1 ∨ m = 2 ∨ m = 3 ∨ m = 4 ∨ m = 5 ∨ m = 6 ∨ m = 7 ∨ m = 8 ∨ m = 9 ∨
      m = 10 ∨ m = 11 := by omega
  simp only [ofDayOfYear, Date.valid, hmonth, Bool.and_eq_true, decide_eq_true_eq]
  rcases hm with rfl | rfl | rfl | rfl | rfl | rfl | rfl | rfl | rfl | rfl | rfl | rfl
  -- February is the only month whose length is not the same in every year
  case inr.inr.inr.inr.inr.inr.inr.inr.inr.inr.inr =>
    have hlength : ((doy - (153 * 11 + 2) / 5 + 1).toNat : Int) ≤
        daysInMonth (year + 1) 2 := by
      unfold daysInMonth
      by_cases hlong : doy = 365
      · simp [hleap hlong, hlong]
      · split <;> split <;> omega
    refine ⟨⟨⟨by decide, by decide⟩, by omega⟩, ?_⟩
    exact Int.ofNat_le.1 hlength
  all_goals
    simp [daysInMonth]
    omega

theorem valid_date (n : Int) : (date n).valid := by
  obtain ⟨era, y, doy, -, ⟨hdoy, hdoy', hleap⟩, -, hdate⟩ := exists_dayOfYear n
  rw [hdate]
  refine valid_ofDayOfYear hdoy hdoy' fun hlong => ?_
  rw [← hleap hlong, ← isLeap_add_era (y + 1) era]
  congr 1
  omega

theorem bounds_of_valid {d : Date} (h : d.valid) :
    (1 ≤ d.month ∧ d.month ≤ 12) ∧ 1 ≤ d.day ∧ d.day ≤ 31 := by
  simp only [Date.valid, Bool.and_eq_true, decide_eq_true_eq] at h
  have hlength : daysInMonth d.year d.month ≤ 31 := by
    unfold daysInMonth
    split
    · split <;> omega
    · split <;> omega
  omega

end FleetSync.Calendar
