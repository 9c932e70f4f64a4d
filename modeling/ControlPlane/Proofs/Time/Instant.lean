import ControlPlane.Proofs.Time.Calendar

namespace ControlPlane

structure Instant.OnClock (i : Instant) : Prop where
  nano_lt : i.nano < 2000000000
  leap : 1000000000 ≤ i.nano → i.second % 60 = 59

variable {m : Moment} {i j : Instant} {offset : Int}

theorem power_ten_nine : power 10 9 = 1000000000 := rfl

theorem Moment.isValid_iff : m.isValid = true ↔ IsDate m.year m.month m.day ∧
    m.hour ≤ 23 ∧ m.minute ≤ 59 ∧ m.second ≤ 60 ∧ m.nano < 1000000000 := by
  simp only [isValid, Bool.and_eq_true, decide_eq_true_eq]
  rw [power_ten_nine]
  constructor
  · rintro ⟨⟨⟨⟨⟨⟨⟨h1, h2⟩, h3⟩, h4⟩, h5⟩, h6⟩, h7⟩, h8⟩
    exact ⟨⟨h1, h2, h3, h4⟩, h5, h6, h7, h8⟩
  · rintro ⟨⟨h1, h2, h3, h4⟩, h5, h6, h7, h8⟩
    exact ⟨⟨⟨⟨⟨⟨⟨h1, h2⟩, h3⟩, h4⟩, h5⟩, h6⟩, h7⟩, h8⟩

theorem Moment.toInstant_of_second (h : m.second ≠ 60) : m.toInstant offset =
    ⟨daysFromDate m.year m.month m.day * 86400 + m.hour * 3600 + m.minute * 60 + m.second - offset,
      m.nano⟩ := by
  simp [toInstant, h]

theorem Moment.toInstant_of_leapSecond (h : m.second = 60) : m.toInstant offset =
    ⟨daysFromDate m.year m.month m.day * 86400 + m.hour * 3600 + m.minute * 60 + 59 - offset,
      m.nano + 1000000000⟩ := by
  simp [toInstant, h, power_ten_nine]

theorem Moment.onClock_toInstant (h : m.isValid = true) (ho : offset % 60 = 0) :
    (m.toInstant offset).OnClock := by
  obtain ⟨-, -, -, hs, hn⟩ := isValid_iff.mp h
  by_cases hleap : m.second = 60
  · rw [toInstant_of_leapSecond hleap]
    exact ⟨by dsimp only; omega, fun _ => by dsimp only; omega⟩
  · rw [toInstant_of_second hleap]
    exact ⟨by dsimp only; omega, fun hnano => by dsimp only at hnano; omega⟩

theorem Instant.toMoment_of_lt (h : i.nano < 1000000000) : i.toMoment =
    { year := (dateFromDays (i.second / 86400)).1, month := (dateFromDays (i.second / 86400)).2.1
      day := (dateFromDays (i.second / 86400)).2.2, hour := (i.second % 86400).toNat / 3600
      minute := (i.second % 86400).toNat / 60 % 60, second := (i.second % 86400).toNat % 60
      nano := i.nano } := by
  simp [toMoment, power_ten_nine, Nat.not_le.mpr h]

theorem Instant.toMoment_of_le (h : 1000000000 ≤ i.nano) : i.toMoment =
    { year := (dateFromDays (i.second / 86400)).1, month := (dateFromDays (i.second / 86400)).2.1
      day := (dateFromDays (i.second / 86400)).2.2, hour := (i.second % 86400).toNat / 3600
      minute := (i.second % 86400).toNat / 60 % 60, second := (i.second % 86400).toNat % 60 + 1
      nano := i.nano - 1000000000 } := by
  simp [toMoment, power_ten_nine, h]

theorem Instant.isValid_toMoment (h : i.OnClock) : i.toMoment.isValid = true := by
  have hdate := dateFromDays_isDate (i.second / 86400)
  have hnano := h.nano_lt
  rw [Moment.isValid_iff]
  by_cases hleap : 1000000000 ≤ i.nano
  · rw [toMoment_of_le hleap]
    exact ⟨hdate, by dsimp only; omega⟩
  · rw [toMoment_of_lt (Nat.not_le.mp hleap)]
    exact ⟨hdate, by dsimp only; omega⟩

theorem Instant.toInstant_toMoment (h : i.OnClock) : i.toMoment.toInstant 0 = i := by
  obtain ⟨second, nano⟩ := i
  obtain ⟨hnano, hlast⟩ := h
  dsimp only at hnano hlast
  by_cases hleap : 1000000000 ≤ nano
  · have hsecond := hlast hleap
    rw [toMoment_of_le hleap, Moment.toInstant_of_leapSecond (by dsimp only; omega)]
    simp only [daysFromDate_dateFromDays, Instant.mk.injEq]
    omega
  · rw [toMoment_of_lt (Nat.not_le.mp hleap), Moment.toInstant_of_second (by dsimp only; omega)]
    simp only [daysFromDate_dateFromDays, Instant.mk.injEq, and_true]
    omega

theorem Moment.toMoment_toInstant (h : m.isValid = true) : (m.toInstant 0).toMoment = m := by
  obtain ⟨hdate, hh, hm, hs, hn⟩ := isValid_iff.mp h
  obtain ⟨year, month, day, hour, minute, second, nano⟩ := m
  dsimp only at hdate hh hm hs hn
  have hback := dateFromDays_daysFromDate hdate
  obtain ⟨days, hdays⟩ : ∃ days, days = daysFromDate year month day := ⟨_, rfl⟩
  rw [← hdays] at hback
  by_cases hleap : second = 60
  · subst hleap
    have hday : (days * 86400 + hour * 3600 + minute * 60 + 59 - 0) / 86400 = days := by omega
    have htime : ((days * 86400 + hour * 3600 + minute * 60 + 59 - 0) % 86400).toNat =
        hour * 3600 + minute * 60 + 59 := by omega
    rw [toInstant_of_leapSecond rfl, Instant.toMoment_of_le (by dsimp only; omega)]
    dsimp only
    rw [← hdays, hday, htime, hback]
    simp only [Moment.mk.injEq, true_and]
    omega
  · have hday : (days * 86400 + hour * 3600 + minute * 60 + second - 0) / 86400 = days := by omega
    have htime : ((days * 86400 + hour * 3600 + minute * 60 + second - 0) % 86400).toNat =
        hour * 3600 + minute * 60 + second := by omega
    rw [toInstant_of_second hleap, Instant.toMoment_of_lt hn]
    dsimp only
    rw [← hdays, hday, htime, hback]
    simp only [Moment.mk.injEq, true_and, and_true]
    omega

theorem Instant.year_toMoment (i : Instant) :
    i.toMoment.year = (dateFromDays (i.second / 86400)).1 := rfl

theorem Moment.year_near (h : m.isValid = true) (h0 : -86400 < offset) (h1 : offset < 86400) :
    m.year - 2 ≤ (m.toInstant offset).toMoment.year ∧
      (m.toInstant offset).toMoment.year ≤ m.year + 2 := by
  obtain ⟨hdate, hh, hm, hs, -⟩ := isValid_iff.mp h
  obtain ⟨hlow, hhigh⟩ := marchDays_bounds hdate
  have hday : daysFromDate m.year m.month m.day - 1 ≤ (m.toInstant offset).second / 86400 ∧
      (m.toInstant offset).second / 86400 ≤ daysFromDate m.year m.month m.day + 1 := by
    by_cases hleap : m.second = 60
    · rw [toInstant_of_leapSecond hleap]
      dsimp only
      omega
    · rw [toInstant_of_second hleap]
      dsimp only
      omega
  have hstart : marchDays (m.year - 2) + 1 ≤ marchDays (m.year - 1) := by
    simp only [marchDays]
    omega
  have hend : marchDays (m.year + 1) + 1 ≤ marchDays (m.year + 2) := by
    simp only [marchDays]
    omega
  rw [Instant.year_toMoment]
  exact year_of_marchDays (by omega) (by omega)

end ControlPlane
