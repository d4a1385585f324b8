import Attestation.Calendar
import Mathlib.Logic.Function.Iterate
import Mathlib.Order.Monotone.Basic
import Mathlib.Tactic.IntervalCases

/-!
Days and dates. The date of a number of days is the one reached from the first of January 1970 by
going on from day to day, and counting its days month after month gives the number back.
-/
namespace Attestation.Calendar

theorem isLeap_iff {year : Nat} :
    isLeap year = true ↔ 4 ∣ year ∧ (100 ∣ year → 400 ∣ year) := by
  simp only [isLeap, Bool.and_eq_true, Bool.or_eq_true, beq_iff_eq, bne_iff_ne,
    Nat.dvd_iff_mod_eq_zero]
  omega

/-! Days counted one month after another. -/

/-- The days of the first months of a year. -/
def daysInMonths (year : Nat) : Nat → Nat
  | 0 => 0
  | n + 1 => daysInMonths year n + daysInMonth year (n + 1)

/-- The days of the first years from 1970 on. -/
def daysInYears : Nat → Nat
  | 0 => 0
  | n + 1 => daysInYears n + daysInMonths (1970 + n) 12

/-- The days between the first of January 1970 and a date. -/
def Date.elapsed (d : Date) : Nat :=
  daysInYears (d.year - 1970) + daysInMonths d.year (d.month - 1) + (d.day - 1)

/-! Days before a year and before a month, from the first of March of the year zero. -/

/-- The days before the March of a year. -/
def daysToMarch (year : Nat) : Nat := 365 * year + year / 4 - year / 100 + year / 400

/-- In 400 years the calendar repeats itself. -/
theorem daysToMarch_eq (year : Nat) :
    daysToMarch year = 146097 * (year / 400) + daysToMarch (year % 400) := by
  unfold daysToMarch
  omega

theorem daysToMarch_of_lt {year : Nat} (h : year < 400) :
    daysToMarch year = 365 * year + year / 4 - year / 100 := by
  rw [daysToMarch, Nat.div_eq_of_lt h, Nat.add_zero]

theorem daysToMarch_succ (year : Nat) :
    daysToMarch (year + 1) = daysToMarch year + if isLeap (year + 1) then 366 else 365 := by
  have hle : year / 100 ≤ year / 4 := Nat.div_le_div_left (by decide) (by decide)
  simp only [daysToMarch, Nat.succ_div, isLeap_iff]
  split_ifs <;> omega

theorem daysToMarch_mono : Monotone daysToMarch := by
  refine monotone_nat_of_le_succ fun year => ?_
  rw [daysToMarch_succ]
  exact Nat.le_add_right _ _

/-- The days before a month, in a year that begins with March. -/
def daysFromMarch (month : Nat) : Nat := (153 * month + 2) / 5

/-- The days before the first of a month. -/
def daysToMonth (year month : Nat) : Nat :=
  if month ≤ 2 then daysToMarch (year - 1) + daysFromMarch (month + 9)
  else daysToMarch year + daysFromMarch (month - 3)

theorem daysToMonth_succ {year month : Nat} (hyear : 1 ≤ year) (hmonth : 1 ≤ month)
    (hmonth' : month < 12) :
    daysToMonth year (month + 1) = daysToMonth year month + daysInMonth year month := by
  have hmarch := daysToMarch_succ (year - 1)
  rw [Nat.sub_add_cancel hyear] at hmarch
  obtain rfl | hmonth₂ := eq_or_ne month 2
  · simp only [daysToMonth, daysFromMarch, daysInMonth, hmarch]
    split_ifs <;> omega
  · simp only [daysToMonth, daysFromMarch, daysInMonth, if_neg hmonth₂]
    interval_cases month <;> simp at hmonth₂ ⊢

theorem daysToMonth_january (year : Nat) :
    daysToMonth (year + 1) 1 = daysToMonth year 12 + daysInMonth year 12 := by
  simp [daysToMonth, daysFromMarch, daysInMonth]

theorem epochShift_le_daysToMonth {year month : Nat} (hyear : 1970 ≤ year) (hmonth : 1 ≤ month) :
    epochShift ≤ daysToMonth year month := by
  unfold daysToMonth
  split
  · have hmarch : daysToMarch 1969 ≤ daysToMarch (year - 1) := daysToMarch_mono (by omega)
    calc epochShift = daysToMarch 1969 + daysFromMarch 10 := rfl
      _ ≤ daysToMarch (year - 1) + daysFromMarch (month + 9) :=
        Nat.add_le_add hmarch (Nat.div_le_div_right (by omega))
  · calc epochShift ≤ daysToMarch 1970 := by decide
      _ ≤ daysToMarch year := daysToMarch_mono hyear
      _ ≤ daysToMarch year + daysFromMarch (month - 3) := Nat.le_add_right _ _

namespace Date

/-- A day of the calendar, from the year 1970 on. -/
structure Valid (d : Date) : Prop where
  year : 1970 ≤ d.year
  month : 1 ≤ d.month ∧ d.month ≤ 12
  day : 1 ≤ d.day ∧ d.day ≤ daysInMonth d.year d.month

theorem isValid_iff {d : Date} : d.isValid = true ↔ d.Valid := by
  simp only [isValid, Bool.and_eq_true, decide_eq_true_eq]
  constructor
  · rintro ⟨⟨⟨⟨hyear, hmonth⟩, hmonth'⟩, hday⟩, hday'⟩
    exact ⟨hyear, ⟨hmonth, hmonth'⟩, hday, hday'⟩
  · rintro ⟨hyear, ⟨hmonth, hmonth'⟩, hday, hday'⟩
    exact ⟨⟨⟨⟨hyear, hmonth⟩, hmonth'⟩, hday⟩, hday'⟩

/-- The day after: in the same month, else the first of the next month, else of the next year. -/
def next (d : Date) : Date :=
  if d.day < daysInMonth d.year d.month then { d with day := d.day + 1 }
  else if d.month < 12 then ⟨d.year, d.month + 1, 1⟩
  else ⟨d.year + 1, 1, 1⟩

theorem one_le_daysInMonth (year month : Nat) : 1 ≤ daysInMonth year month := by
  unfold daysInMonth
  split_ifs <;> omega

theorem Valid.next {d : Date} (h : d.Valid) : d.next.Valid := by
  obtain ⟨hyear, ⟨hmonth, hmonth'⟩, hday, hday'⟩ := h
  unfold Date.next
  split_ifs with hin hmonths
  · exact ⟨hyear, ⟨hmonth, hmonth'⟩, Nat.le_add_left 1 _, hin⟩
  · exact ⟨hyear, ⟨Nat.le_add_left 1 _, hmonths⟩, le_rfl, one_le_daysInMonth _ _⟩
  · exact ⟨Nat.le_succ_of_le hyear, ⟨le_rfl, Nat.le_add_left 1 11⟩, le_rfl, one_le_daysInMonth _ _⟩

theorem Valid.elapsed_next {d : Date} (h : d.Valid) : d.next.elapsed = d.elapsed + 1 := by
  obtain ⟨year, month, day⟩ := d
  obtain ⟨hyear, ⟨hmonth, hmonth'⟩, hday, hday'⟩ := h
  dsimp only at hyear hmonth hmonth' hday hday'
  obtain ⟨months, rfl⟩ : ∃ n, month = n + 1 := ⟨month - 1, by omega⟩
  obtain ⟨years, rfl⟩ : ∃ n, year = 1970 + n := ⟨year - 1970, by omega⟩
  have hmonths : daysInMonths (1970 + years) (months + 1) =
      daysInMonths (1970 + years) months + daysInMonth (1970 + years) (months + 1) := rfl
  simp only [Date.next]
  split_ifs with hin hnext
  · simp only [elapsed, Nat.add_sub_cancel]
    omega
  · simp only [elapsed, Nat.add_sub_cancel, hmonths]
    omega
  · obtain rfl : months = 11 := by omega
    have hyears : daysInYears (1970 + years + 1 - 1970) =
        daysInYears years + daysInMonths (1970 + years) (11 + 1) := by
      rw [Nat.add_assoc, Nat.add_sub_cancel_left]
      rfl
    have hfirst : daysInMonths (1970 + years + 1) (1 - 1) = 0 := rfl
    simp only [elapsed, hyears, hmonths, hfirst, Nat.add_sub_cancel_left, Nat.add_sub_cancel]
    omega

theorem toDays_eq (d : Date) :
    d.toDays = daysToMonth d.year d.month + (d.day - 1) - epochShift := by
  have hera (year : Nat) : year / 400 * 146097 + year % 400 * 365 + year % 400 / 4 -
      year % 400 / 100 = daysToMarch year := by
    unfold daysToMarch
    omega
  simp only [toDays, hera, daysToMonth, daysFromMarch]
  split_ifs <;> rw [Nat.add_assoc]

theorem Valid.toDays_next {d : Date} (h : d.Valid) : d.next.toDays = d.toDays + 1 := by
  obtain ⟨hyear, ⟨hmonth, hmonth'⟩, hday, hday'⟩ := h
  have hepoch := epochShift_le_daysToMonth hyear hmonth
  simp only [toDays_eq, Date.next]
  split_ifs with hin hmonths
  · dsimp only
    omega
  · have hnext : daysToMonth d.year (d.month + 1) =
        daysToMonth d.year d.month + daysInMonth d.year d.month :=
      daysToMonth_succ (by omega) hmonth hmonths
    dsimp only
    omega
  · have hdecember : d.month = 12 := by omega
    have hnext := daysToMonth_january d.year
    rw [hdecember] at hin hday' hepoch ⊢
    dsimp only
    omega

end Date

/-! The date of a number of days. -/

/-- The year in which a day lies, by the place of the day in 400 years. The last day of a leap year,
of a century and of all of them come after 365 days of their year. -/
theorem yearOfEra_eq {century olympiad year day : Nat} (hcentury : century < 4)
    (holympiad : olympiad < 25) (hyear : year < 4)
    (hday : day < 365 ∨ day = 365 ∧ year = 3 ∧ (olympiad < 24 ∨ century = 3)) {dayOfEra : Nat}
    (hdayOfEra : dayOfEra = 36524 * century + 1461 * olympiad + 365 * year + day) :
    (dayOfEra - dayOfEra / 1460 + dayOfEra / 36524 - dayOfEra / 146096) / 365 =
      100 * century + 4 * olympiad + year := by
  by_cases hlast : 1461 * olympiad + 365 * year + day < 36524
  · have hcenturies : dayOfEra / 36524 = century := Nat.div_eq_of_lt_le (by omega) (by omega)
    have hera : dayOfEra / 146096 = 0 := Nat.div_eq_of_lt (by omega)
    -- Of the days divided by 1460, the late ones of a year count one leap day too many.
    obtain ⟨late, hleaps, hlate, hlate'⟩ : ∃ late,
        dayOfEra / 1460 = 25 * century + olympiad + late ∧ late ≤ day ∧ day < 365 + late := by
      by_cases h : 24 * century + olympiad + 365 * year + day < 1460
      · exact ⟨0, Nat.div_eq_of_lt_le (by omega) (by omega), by omega, by omega⟩
      · exact ⟨1, Nat.div_eq_of_lt_le (by omega) (by omega), by omega, by omega⟩
    rw [hcenturies, hera, hleaps]
    exact Nat.div_eq_of_lt_le (by omega) (by omega)
  · obtain ⟨rfl, rfl, rfl, rfl⟩ : century = 3 ∧ olympiad = 24 ∧ year = 3 ∧ day = 365 := by omega
    rw [hdayOfEra]

theorem dayOfEra_eq {year day : Nat} (hday : day < if isLeap (year + 1) then 366 else 365) :
    let dayOfEra := daysToMarch (year % 400) + day
    dayOfEra < 146097 ∧
      (dayOfEra - dayOfEra / 1460 + dayOfEra / 36524 - dayOfEra / 146096) / 365 = year % 400 := by
  intro dayOfEra
  obtain ⟨century, hcentury⟩ : ∃ n, year % 400 / 100 = n := ⟨_, rfl⟩
  obtain ⟨olympiad, holympiad⟩ : ∃ n, year % 100 / 4 = n := ⟨_, rfl⟩
  have hyear : year % 400 = 100 * century + 4 * olympiad + year % 4 := by omega
  have hdayOfEra : dayOfEra = 36524 * century + 1461 * olympiad + 365 * (year % 4) + day := by
    have hquads : year % 400 / 4 = 25 * century + olympiad := by omega
    change daysToMarch (year % 400) + day = _
    rw [daysToMarch_of_lt (Nat.mod_lt _ (by decide)), hcentury, hquads, hyear]
    omega
  have hlast : day < 365 ∨ day = 365 ∧ year % 4 = 3 ∧ (olympiad < 24 ∨ century = 3) := by
    split at hday
    · rename_i h
      rw [isLeap_iff] at h
      omega
    · exact .inl hday
  refine ⟨by omega, ?_⟩
  rw [yearOfEra_eq (by omega) (by omega) (Nat.mod_lt _ (by decide)) hlast hdayOfEra, hyear]

theorem month_eq {month day : Nat} (h : daysFromMarch month + day < daysFromMarch (month + 1)) :
    (5 * (daysFromMarch month + day) + 2) / 153 = month := by
  unfold daysFromMarch at *
  exact Nat.div_eq_of_lt_le (by omega) (by omega)

/-- The date of a day that is given by its year, its month and its place in the month, where years
begin with March. -/
theorem ofDays_eq {year month day days : Nat}
    (hdays : days + epochShift = daysToMarch year + (daysFromMarch month + day))
    (hmonth : daysFromMarch month + day < daysFromMarch (month + 1))
    (hyear : daysFromMarch month + day < if isLeap (year + 1) then 366 else 365) :
    ofDays days =
      if month < 10 then ⟨year, month + 3, day + 1⟩ else ⟨year + 1, month - 9, day + 1⟩ := by
  obtain ⟨hlt, hyearOfEra⟩ := dayOfEra_eq hyear
  have hshifted : days + epochShift =
      146097 * (year / 400) + (daysToMarch (year % 400) + (daysFromMarch month + day)) := by
    rw [hdays, daysToMarch_eq year, Nat.add_assoc]
  have hdayOfYear : daysToMarch (year % 400) + (daysFromMarch month + day) -
      (365 * (year % 400) + year % 400 / 4 - year % 400 / 100) = daysFromMarch month + day := by
    rw [daysToMarch_of_lt (Nat.mod_lt _ (by decide)), Nat.add_sub_cancel_left]
  have hday : daysFromMarch month + day - (153 * month + 2) / 5 = day :=
    Nat.add_sub_cancel_left _ _
  have hyears : (year / 400 + 0) * 400 + year % 400 = year := by omega
  simp only [ofDays, hshifted, Nat.mul_add_mod, Nat.mod_eq_of_lt hlt,
    Nat.mul_add_div (show 0 < 146097 by decide), Nat.div_eq_of_lt hlt, hyearOfEra, hdayOfYear,
    month_eq hmonth, hday, hyears]

/-- A day of January or February is one of the last of its year. -/
theorem daysFromMarch_early {year month day : Nat} (hmonth : 1 ≤ month) (hmonth' : month ≤ 2)
    (hday : day < daysInMonth year month) :
    daysFromMarch (month + 9) + day < daysFromMarch (month + 9 + 1) ∧
      daysFromMarch (month + 9) + day < if isLeap year then 366 else 365 := by
  unfold daysFromMarch
  unfold daysInMonth at hday
  interval_cases month
  · simp at hday
    split_ifs <;> omega
  · simp at hday
    split_ifs at * <;> omega

theorem daysFromMarch_late {year month day : Nat} (hmonth : 3 ≤ month) (hmonth' : month ≤ 12)
    (hday : day < daysInMonth year month) :
    daysFromMarch (month - 3) + day < daysFromMarch (month - 3 + 1) ∧
      daysFromMarch (month - 3) + day < 365 := by
  unfold daysFromMarch
  unfold daysInMonth at hday
  interval_cases month <;> simp at hday ⊢ <;> omega

theorem Date.Valid.ofDays_toDays {d : Date} (h : d.Valid) : ofDays d.toDays = d := by
  obtain ⟨year, month, day⟩ := d
  obtain ⟨hyear, ⟨hmonth, hmonth'⟩, hday, hday'⟩ := h
  dsimp only at hyear hmonth hmonth' hday hday'
  have hepoch := epochShift_le_daysToMonth hyear hmonth
  have hdays : (⟨year, month, day⟩ : Date).toDays + epochShift =
      daysToMonth year month + (day - 1) := by
    rw [Date.toDays_eq]
    exact Nat.sub_add_cancel (Nat.le_add_right_of_le hepoch)
  have hin : day - 1 < daysInMonth year month := by omega
  rw [daysToMonth] at hdays
  split at hdays
  · rename_i hearly
    obtain ⟨hinMonth, hinYear⟩ := daysFromMarch_early hmonth hearly hin
    rw [Nat.add_assoc] at hdays
    rw [ofDays_eq hdays hinMonth (by rwa [Nat.sub_add_cancel (by omega)]), if_neg (by omega),
      Date.mk.injEq]
    omega
  · rename_i hlate
    obtain ⟨hinMonth, hinYear⟩ := daysFromMarch_late (by omega) hmonth' hin
    rw [Nat.add_assoc] at hdays
    rw [ofDays_eq hdays hinMonth (by split <;> omega), if_pos (by omega), Date.mk.injEq]
    omega

/-! From day to day. -/

/-- The first day of the calendar. -/
def firstDay : Date := ⟨1970, 1, 1⟩

/-- The day that is reached after so many days. -/
def dayAfter (days : Nat) : Date := Date.next^[days] firstDay

theorem dayAfter_succ (days : Nat) : dayAfter (days + 1) = (dayAfter days).next :=
  Function.iterate_succ_apply' _ _ _

theorem valid_dayAfter (days : Nat) : (dayAfter days).Valid := by
  induction days with
  | zero => exact Date.isValid_iff.1 (by decide)
  | succ days ih =>
    rw [dayAfter_succ]
    exact ih.next

theorem toDays_dayAfter (days : Nat) : (dayAfter days).toDays = days := by
  induction days with
  | zero => rfl
  | succ days ih => rw [dayAfter_succ, (valid_dayAfter days).toDays_next, ih]

theorem elapsed_dayAfter (days : Nat) : (dayAfter days).elapsed = days := by
  induction days with
  | zero => rfl
  | succ days ih => rw [dayAfter_succ, (valid_dayAfter days).elapsed_next, ih]

theorem ofDays_eq_dayAfter (days : Nat) : ofDays days = dayAfter days := by
  have hback := (valid_dayAfter days).ofDays_toDays
  rwa [toDays_dayAfter] at hback

theorem valid_ofDays (days : Nat) : (ofDays days).Valid :=
  ofDays_eq_dayAfter days ▸ valid_dayAfter days

theorem elapsed_ofDays (days : Nat) : (ofDays days).elapsed = days := by
  rw [ofDays_eq_dayAfter, elapsed_dayAfter]

end Attestation.Calendar
