import FlowLines.Time.Calendar

/-! Every day number is that of the date it stands for, and that date is in the calendar. -/

namespace FlowLines.Time

theorem daysBeforeMonth_succ {month : Nat} (h : month < 11) (year : Int) :
    daysBeforeMonth (month + 1) = daysBeforeMonth month +
      monthLength year (if month < 10 then month + 3 else month - 9) := by
  have hm : month = 0 ∨ month = 1 ∨ month = 2 ∨ month = 3 ∨ month = 4 ∨ month = 5 ∨ month = 6 ∨
      month = 7 ∨ month = 8 ∨ month = 9 ∨ month = 10 := by omega
  rcases hm with rfl | rfl | rfl | rfl | rfl | rfl | rfl | rfl | rfl | rfl | rfl <;> rfl

/-- A day of an era of four hundred years, by the century, the four years and the year in which
it lies.  Years begin in March, so the leap day is the last of four years, unless these end a
century before the last. -/
structure DayOfEra where
  century : Nat
  cycle : Nat
  year : Nat
  day : Nat
  century_lt : century < 4
  cycle_lt : cycle < 25
  year_lt : year < 4
  day_lt : day < 365 ∨ day = 365 ∧ year = 3 ∧ (cycle < 24 ∨ century = 3)

namespace DayOfEra

def toNat (d : DayOfEra) : Nat := 36524 * d.century + 1461 * d.cycle + 365 * d.year + d.day

def years (d : DayOfEra) : Nat := 100 * d.century + 4 * d.cycle + d.year

theorem exists_toNat_eq {n : Nat} (h : n < 146097) : ∃ d : DayOfEra, d.toNat = n := by
  let c := min (n / 36524) 3
  let q := (n - 36524 * c) / 1461
  let r := min ((n - 36524 * c - 1461 * q) / 365) 3
  refine ⟨⟨c, q, r, n - 36524 * c - 1461 * q - 365 * r, ?_, ?_, ?_, ?_⟩, ?_⟩
  all_goals simp only [c, q, r, toNat]; omega

theorem toNat_div_1460 (d : DayOfEra) :
    d.toNat / 1460 = 25 * d.century + d.cycle ∧ d.day < 365 ∨
      d.toNat / 1460 = 25 * d.century + d.cycle + 1 ∧ 0 < d.day := by
  obtain ⟨c, q, r, k, hc, hq, hr, hk⟩ := d
  simp only [toNat]
  omega

theorem toNat_div_36524 (d : DayOfEra) : d.toNat / 36524 = d.century ∨ d.toNat = 146096 := by
  obtain ⟨c, q, r, k, hc, hq, hr, hk⟩ := d
  simp only [toNat]
  omega

theorem years_eq (d : DayOfEra) :
    (d.toNat - d.toNat / 1460 + d.toNat / 36524 - d.toNat / 146096) / 365 = d.years := by
  have h₁ := d.toNat_div_1460
  have h₂ := d.toNat_div_36524
  obtain ⟨c, q, r, k, hc, hq, hr, hk⟩ := d
  simp only [toNat, years] at *
  omega

theorem day_eq (d : DayOfEra) :
    d.toNat - (365 * d.years + d.years / 4 - d.years / 100) = d.day := by
  obtain ⟨c, q, r, k, hc, hq, hr, hk⟩ := d
  simp only [toNat, years]
  omega

theorem daysBeforeMarch_years (d : DayOfEra) (era : Int) :
    daysBeforeMarch (d.years + era * 400) + d.day = era * 146097 + d.toNat := by
  obtain ⟨c, q, r, k, hc, hq, hr, hk⟩ := d
  simp only [toNat, years, daysBeforeMarch]
  omega

theorem isLeap_of_day_eq {d : DayOfEra} (h : d.day = 365) (era : Int) :
    isLeap (d.years + era * 400 + 1) := by
  obtain ⟨c, q, r, k, hc, hq, hr, hk⟩ := d
  simp only [years] at h ⊢
  simp only [isLeap, Bool.and_eq_true, Bool.or_eq_true, decide_eq_true_eq]
  omega

/-- The month in which the day lies, March being month zero. -/
def month (d : DayOfEra) : Nat := (5 * d.day + 2) / 153

theorem day_le (d : DayOfEra) : d.day ≤ 365 := by
  have h := d.day_lt
  omega

theorem daysBeforeMonth_le (d : DayOfEra) : daysBeforeMonth d.month ≤ d.day := by
  simp only [daysBeforeMonth, month]
  omega

theorem lt_daysBeforeMonth_succ (d : DayOfEra) : d.day < daysBeforeMonth (d.month + 1) := by
  simp only [daysBeforeMonth, month]
  omega

theorem month_lt (d : DayOfEra) : d.month < 12 := by
  have h := d.day_le
  simp only [month]
  omega

def date (d : DayOfEra) (era : Int) : Date :=
  let year : Int := d.years + era * 400
  { year := if 10 ≤ d.month then year + 1 else year
    month := if d.month < 10 then d.month + 3 else d.month - 9
    day := d.day - daysBeforeMonth d.month + 1 }

theorem toDays_date (d : DayOfEra) (era : Int) :
    (d.date era).toDays = era * 146097 + d.toNat - epoch := by
  have hm := d.month_lt
  have hd := d.daysBeforeMonth_le
  have hy := d.daysBeforeMarch_years era
  by_cases h : 10 ≤ d.month
  · have hmonth : (d.month - 9 + 9) % 12 = d.month := by omega
    have hle : d.month - 9 ≤ 2 := by omega
    simp only [date, Date.toDays, if_pos h, if_neg (Nat.not_lt.2 h), if_pos hle, hmonth,
      Int.add_sub_cancel]
    omega
  · have hmonth : (d.month + 3 + 9) % 12 = d.month := by omega
    have hle : ¬ d.month + 3 ≤ 2 := by omega
    simp only [date, Date.toDays, if_neg h, if_pos (Nat.not_le.1 h), if_neg hle, hmonth]
    omega

theorem month_date (d : DayOfEra) (era : Int) :
    1 ≤ (d.date era).month ∧ (d.date era).month ≤ 12 := by
  have h := d.month_lt
  simp only [date]
  split <;> omega

/-- February comes last, and is the month whose length has to be looked up. -/
theorem day_date_le (d : DayOfEra) (era : Int) :
    (d.date era).day ≤ monthLength (d.date era).year (d.date era).month := by
  have hd := d.day_le
  have hle := d.daysBeforeMonth_le
  have hlt := d.lt_daysBeforeMonth_succ
  by_cases h : d.month < 11
  · rw [daysBeforeMonth_succ h (d.date era).year] at hlt
    simp only [date] at hlt ⊢
    omega
  · have hlast : d.month = 11 := Nat.le_antisymm (Nat.le_of_lt_succ d.month_lt) (Nat.not_lt.1 h)
    have hbefore : daysBeforeMonth 11 = 337 := rfl
    simp only [date, hlast, hbefore, monthLength]
    simp
    split
    · omega
    · next hl =>
      have hne : d.day ≠ 365 := fun h => hl (d.isLeap_of_day_eq h era)
      omega

end DayOfEra

theorem Date.exists_ofDays_eq (n : Int) : ∃ (d : DayOfEra) (era : Int),
    Date.ofDays n = d.date era ∧ n = era * 146097 + d.toNat - epoch := by
  obtain ⟨d, hd⟩ := DayOfEra.exists_toNat_eq (n := ((n + epoch) % 146097).toNat) (by omega)
  refine ⟨d, (n + epoch) / 146097, ?_, by omega⟩
  simp only [Date.ofDays, ← hd, d.years_eq, d.day_eq]
  rfl

theorem Date.toDays_ofDays (n : Int) : (Date.ofDays n).toDays = n := by
  obtain ⟨d, era, hd, hn⟩ := exists_ofDays_eq n
  rw [hd, d.toDays_date, ← hn]

theorem Date.isValid_ofDays {n : Int} (h : isYear (ofDays n).year) : (ofDays n).IsValid := by
  obtain ⟨d, era, hd, -⟩ := exists_ofDays_eq n
  rw [hd] at h ⊢
  have hm := d.month_date era
  exact ⟨h, hm.1, hm.2, Nat.le_add_left 1 _, d.day_date_le era⟩

theorem monthLength_le (year : Int) (month : Nat) : monthLength year month ≤ 31 := by
  unfold monthLength
  split
  · split <;> decide
  · split <;> decide

end FlowLines.Time
