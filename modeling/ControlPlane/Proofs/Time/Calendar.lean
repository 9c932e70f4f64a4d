import ControlPlane.Time.Instant
import Mathlib.Tactic.IntervalCases
import Mathlib.Tactic.Ring

namespace ControlPlane

structure IsDate (year : Int) (month day : Nat) : Prop where
  month_pos : 1 ≤ month
  month_le : month ≤ 12
  day_pos : 1 ≤ day
  day_le : day ≤ daysInMonth year month

def marchDays (year : Int) : Int := year * 365 + year / 4 - year / 100 + year / 400

def dateFromMarch (year dayOfYear : Int) : Int × Nat × Nat :=
  let monthFromMarch := (5 * dayOfYear + 2) / 153
  let month := if monthFromMarch < 10 then monthFromMarch + 3 else monthFromMarch - 9
  (year + (if month ≤ 2 then 1 else 0), month.toNat,
    (dayOfYear - (153 * monthFromMarch + 2) / 5 + 1).toNat)

structure DayOfEra (n century cycle year day : Int) : Prop where
  century_nonneg : 0 ≤ century
  century_le : century ≤ 3
  cycle_nonneg : 0 ≤ cycle
  cycle_le : cycle ≤ 24
  year_nonneg : 0 ≤ year
  year_le : year ≤ 3
  day_nonneg : 0 ≤ day
  day_le : day ≤ 365
  sum : n = 36524 * century + 1461 * cycle + 365 * year + day
  leapDay : day = 365 → year = 3 ∧ (cycle < 24 ∨ century = 3)

variable {year year' n century cycle dayOfYear : Int} {month day : Nat}

theorem daysInMonth_le (year : Int) (month : Nat) : daysInMonth year month ≤ 31 := by
  unfold daysInMonth
  split
  · split <;> simp
  · simp
  · simp
  · simp
  · simp
  · simp

theorem isLeapYear_iff :
    isLeapYear year = true ↔ year % 4 = 0 ∧ (year % 100 ≠ 0 ∨ year % 400 = 0) := by
  simp [isLeapYear]

theorem marchDays_of_leap (h : isLeapYear year = true) :
    marchDays year = marchDays (year - 1) + 366 := by
  rw [isLeapYear_iff] at h
  simp only [marchDays]
  omega

theorem marchDays_of_common (h : isLeapYear year = false) :
    marchDays year = marchDays (year - 1) + 365 := by
  rw [← Bool.not_eq_true, isLeapYear_iff] at h
  simp only [marchDays]
  omega

theorem daysFromDate_eq : daysFromDate year month day =
    marchDays (if month ≤ 2 then year - 1 else year) + (153 * ((month + 9 : Int) % 12) + 2) / 5 +
      day - 719469 := by
  simp only [daysFromDate, marchDays]
  omega

example : daysFromDate 1970 1 1 = 0 := rfl

theorem exists_dayOfEra (h0 : 0 ≤ n) (h1 : n < 146097) :
    ∃ century cycle year day, DayOfEra n century cycle year day := by
  -- the last day of all makes its century and its cycle one day longer
  obtain ⟨c, x, hc⟩ : ∃ c x : Int, 0 ≤ c ∧ c ≤ 3 ∧ 0 ≤ x ∧ n = 36524 * c + x ∧
      (x < 36524 ∨ x = 36524 ∧ c = 3) := by
    by_cases h : n = 146096
    · exact ⟨3, 36524, by omega⟩
    · exact ⟨n / 36524, n % 36524, by omega⟩
  obtain ⟨a, d, had⟩ : ∃ a d : Int, 0 ≤ a ∧ a ≤ 3 ∧ 0 ≤ d ∧ x % 1461 = 365 * a + d ∧
      (d < 365 ∨ d = 365 ∧ a = 3) := by
    by_cases h : x % 1461 = 1460
    · exact ⟨3, 365, by omega⟩
    · exact ⟨x % 1461 / 365, x % 1461 % 365, by omega⟩
  exact ⟨c, x / 1461, a, d, by constructor <;> omega⟩

theorem DayOfEra.yearOfEra (h : DayOfEra n century cycle year dayOfYear) :
    (n - n / 1460 + n / 36524 - n / 146096) / 365 = 100 * century + 4 * cycle + year := by
  obtain ⟨_, _, _, _, _, _, _, _, _, _⟩ := h
  have hcentury : n / 36524 - n / 146096 = century := by
    by_cases hn : n = 146096
    · omega
    · have hx : 1461 * cycle + 365 * year + dayOfYear < 36524 := by
        by_contra hx
        have hd : dayOfYear = 365 := by omega
        have hq : cycle = 24 := by omega
        omega
      have hc : n / 36524 = century := by omega
      omega
  have hcycle : n / 1460 = 25 * century + cycle ∧ dayOfYear < 365 ∨
      n / 1460 = 25 * century + cycle + 1 ∧ 0 < dayOfYear := by
    have hn : n = 1460 * (25 * century + cycle) +
        (24 * century + cycle + 365 * year + dayOfYear) := by omega
    by_cases hr : 24 * century + cycle + 365 * year + dayOfYear < 1460
    · exact .inl ⟨by omega, by omega⟩
    · exact .inr ⟨by omega, by omega⟩
  omega

theorem DayOfEra.marchDays_eq (h : DayOfEra n century cycle year dayOfYear) (era : Int) :
    marchDays (100 * century + 4 * cycle + year + era * 400) + dayOfYear = n + era * 146097 := by
  have hcycles : (100 * century + 4 * cycle + year + era * 400) / 4 =
      25 * century + cycle + era * 100 := by
    have := h.year_nonneg
    have := h.year_le
    omega
  have hcenturies : (100 * century + 4 * cycle + year + era * 400) / 100 = century + era * 4 := by
    have := h.year_nonneg
    have := h.year_le
    have := h.cycle_nonneg
    have := h.cycle_le
    omega
  have heras : (100 * century + 4 * cycle + year + era * 400) / 400 = era := by
    obtain ⟨_, _, _, _, _, _, _, _, _, _⟩ := h
    omega
  rw [marchDays, hcycles, hcenturies, heras, h.sum]
  ring

theorem DayOfEra.isLeapYear (h : DayOfEra n century cycle year 365) (era : Int) :
    isLeapYear (100 * century + 4 * cycle + year + era * 400 + 1) = true := by
  obtain ⟨rfl, hlast⟩ := h.leapDay rfl
  have := h.cycle_nonneg
  have := h.cycle_le
  rw [isLeapYear_iff]
  omega

theorem DayOfEra.dayOfYear_eq (h : DayOfEra n century cycle year dayOfYear) :
    n - (365 * (100 * century + 4 * cycle + year) + (100 * century + 4 * cycle + year) / 4 -
      (100 * century + 4 * cycle + year) / 100) = dayOfYear := by
  have hdays := h.marchDays_eq 0
  have hera : (100 * century + 4 * cycle + year) / 400 = 0 := by
    obtain ⟨_, _, _, _, _, _, _, _, _, _⟩ := h
    omega
  rw [zero_mul, zero_mul, add_zero, add_zero, marchDays, hera] at hdays
  omega

theorem dateFromDays_eq (days : Int) : ∃ year dayOfYear, 0 ≤ dayOfYear ∧ dayOfYear ≤ 365 ∧
    (dayOfYear = 365 → isLeapYear (year + 1) = true) ∧
    marchDays year + dayOfYear = days + 719468 ∧
    dateFromDays days = dateFromMarch year dayOfYear := by
  obtain ⟨c, q, a, d, h⟩ := exists_dayOfEra (n := (days + 719468) % 146097) (by omega) (by omega)
  refine ⟨100 * c + 4 * q + a + (days + 719468) / 146097 * 400, d, h.day_nonneg, h.day_le,
    fun hd => ?_, ?_, ?_⟩
  · subst hd
    exact h.isLeapYear _
  · rw [h.marchDays_eq]
    omega
  · simp only [dateFromDays, dateFromMarch, h.yearOfEra, h.dayOfYear_eq]

theorem dateFromMarch_isDate (h0 : 0 ≤ dayOfYear) (h1 : dayOfYear ≤ 365)
    (hleap : dayOfYear = 365 → isLeapYear (year + 1) = true) :
    IsDate (dateFromMarch year dayOfYear).1 (dateFromMarch year dayOfYear).2.1
      (dateFromMarch year dayOfYear).2.2 := by
  simp only [dateFromMarch]
  obtain ⟨m, hm⟩ : ∃ m, m = (5 * dayOfYear + 2) / 153 := ⟨_, rfl⟩
  rw [← hm]
  have hm0 : 0 ≤ m := by omega
  have hm1 : m ≤ 11 := by omega
  refine ⟨by omega, by omega, by omega, ?_⟩
  cases hlast : isLeapYear (year + 1) with
  | true => interval_cases m <;> simp [daysInMonth, hlast] <;> omega
  | false =>
      have hcommon : dayOfYear ≠ 365 := fun h => absurd (hlast.symm.trans (hleap h)) (by simp)
      interval_cases m <;> simp [daysInMonth, hlast] <;> omega

theorem daysFromDate_dateFromMarch (h0 : 0 ≤ dayOfYear) (h1 : dayOfYear ≤ 365) :
    daysFromDate (dateFromMarch year dayOfYear).1 (dateFromMarch year dayOfYear).2.1
      (dateFromMarch year dayOfYear).2.2 = marchDays year + dayOfYear - 719468 := by
  simp only [dateFromMarch, daysFromDate_eq]
  obtain ⟨m, hm⟩ : ∃ m, m = (5 * dayOfYear + 2) / 153 := ⟨_, rfl⟩
  rw [← hm]
  have hm0 : 0 ≤ m := by omega
  have hm1 : m ≤ 11 := by omega
  interval_cases m <;> simp <;> omega

theorem dateFromDays_isDate (days : Int) : IsDate (dateFromDays days).1 (dateFromDays days).2.1
    (dateFromDays days).2.2 := by
  obtain ⟨year, dayOfYear, h0, h1, hleap, -, he⟩ := dateFromDays_eq days
  rw [he]
  exact dateFromMarch_isDate h0 h1 hleap

theorem daysFromDate_dateFromDays (days : Int) : daysFromDate (dateFromDays days).1
    (dateFromDays days).2.1 (dateFromDays days).2.2 = days := by
  obtain ⟨year, dayOfYear, h0, h1, -, hdays, he⟩ := dateFromDays_eq days
  rw [he, daysFromDate_dateFromMarch h0 h1]
  omega

theorem marchDays_le (h : year ≤ year') : marchDays year ≤ marchDays year' := by
  simp only [marchDays]
  omega

theorem lt_marchDays (h1 : dayOfYear ≤ 365) (hleap : dayOfYear = 365 → isLeapYear (year + 1) = true)
    (h : year < year') : marchDays year + dayOfYear < marchDays year' := by
  have hnext : marchDays (year + 1) ≤ marchDays year' := marchDays_le h
  cases hlast : isLeapYear (year + 1) with
  | true =>
      have hlong := marchDays_of_leap hlast
      rw [Int.add_sub_cancel] at hlong
      omega
  | false =>
      have hcommon : dayOfYear ≠ 365 := fun h => absurd (hlast.symm.trans (hleap h)) (by simp)
      have hshort := marchDays_of_common hlast
      rw [Int.add_sub_cancel] at hshort
      omega

theorem monthFromMarch_eq (h : IsDate year month day) :
    (5 * ((153 * ((month + 9 : Int) % 12) + 2) / 5 + day - 1) + 2) / 153 = (month + 9 : Int) % 12 := by
  obtain ⟨hm, hm', hd, hd'⟩ := h
  cases hleap : isLeapYear year with
  | true => interval_cases month <;> simp [daysInMonth, hleap] at hd' ⊢ <;> omega
  | false => interval_cases month <;> simp [daysInMonth, hleap] at hd' ⊢ <;> omega

theorem exists_dateFromMarch (h : IsDate year month day) : ∃ march dayOfYear,
    0 ≤ dayOfYear ∧ dayOfYear ≤ 365 ∧ (dayOfYear = 365 → isLeapYear (march + 1) = true) ∧
    marchDays march + dayOfYear = daysFromDate year month day + 719468 ∧
    dateFromMarch march dayOfYear = (year, month, day) := by
  have hmonth := monthFromMarch_eq h
  obtain ⟨hm, hm', hd, hd'⟩ := h
  refine ⟨if month ≤ 2 then year - 1 else year,
    (153 * ((month + 9 : Int) % 12) + 2) / 5 + day - 1, ?_⟩
  rw [daysFromDate_eq]
  simp only [dateFromMarch, hmonth]
  clear hmonth
  cases hleap : isLeapYear year with
  | true => interval_cases month <;> simp [daysInMonth, hleap] at hd' ⊢ <;> omega
  | false => interval_cases month <;> simp [daysInMonth, hleap] at hd' ⊢ <;> omega

theorem dateFromDays_daysFromDate (h : IsDate year month day) :
    dateFromDays (daysFromDate year month day) = (year, month, day) := by
  obtain ⟨march, d, h0, h1, hleap, hdays, hdate⟩ := exists_dateFromMarch h
  obtain ⟨march', d', h0', h1', hleap', hdays', hdate'⟩ := dateFromDays_eq (daysFromDate year month day)
  have hmarch : march = march' := by
    rcases Int.lt_trichotomy march march' with hlt | heq | hgt
    · have := lt_marchDays h1 hleap hlt
      omega
    · exact heq
    · have := lt_marchDays h1' hleap' hgt
      omega
  subst hmarch
  obtain rfl : d = d' := by omega
  rw [hdate', hdate]

theorem year_dateFromMarch (year dayOfYear : Int) : year ≤ (dateFromMarch year dayOfYear).1 ∧
    (dateFromMarch year dayOfYear).1 ≤ year + 1 := by
  simp only [dateFromMarch]
  split <;> omega

theorem marchDays_bounds (h : IsDate year month day) :
    marchDays (year - 1) ≤ daysFromDate year month day + 719468 ∧
      daysFromDate year month day + 719468 < marchDays (year + 1) := by
  obtain ⟨march, d, h0, h1, hleap, hdays, hdate⟩ := exists_dateFromMarch h
  obtain ⟨hlow, hhigh⟩ := year_dateFromMarch march d
  rw [hdate] at hlow hhigh
  have hstart : marchDays (year - 1) ≤ marchDays march := marchDays_le (by omega)
  have hend : marchDays march + d < marchDays (year + 1) := lt_marchDays h1 hleap (by omega)
  omega

theorem year_of_marchDays {days : Int} (h : marchDays year ≤ days + 719468)
    (h' : days + 719468 < marchDays year') :
    year ≤ (dateFromDays days).1 ∧ (dateFromDays days).1 ≤ year' := by
  obtain ⟨march, d, h0, h1, hleap, hdays, hdate⟩ := dateFromDays_eq days
  obtain ⟨hlow, hhigh⟩ := year_dateFromMarch march d
  rw [hdate]
  have hstart : year ≤ march := by
    by_contra hlt
    have := lt_marchDays h1 hleap (Int.not_le.mp hlt)
    omega
  have hend : march < year' := by
    by_contra hle
    have := marchDays_le (Int.not_lt.mp hle)
    omega
  omega

end ControlPlane
