import ControlPlane.Proofs.Time.Acceptance

namespace ControlPlane.Timestamp

variable {cs : List Char} {n width : Nat} {m : Moment} {offset : Int}

def bareText (m : Moment) : List Char :=
  yearText m.year ++ '-' :: (padded 2 m.month ++ '-' :: (padded 2 m.day ++ 'T' :: (padded 2 m.hour ++
    ':' :: (padded 2 m.minute ++ ':' :: (padded 2 m.second ++ fractionText m.nano)))))

theorem momentText_eq (m : Moment) : momentText m = bareText m ++ ['Z'] := by
  simp only [momentText, bareText, List.append_assoc, List.cons_append]

theorem fixed_padded (hw : 0 < width) (h : n < 10 ^ width) : Fixed width (padded width n) n where
  digits := digits_padded width n
  length := length_padded hw h
  value := (digitsValue_padded width n).symm

theorem loose_padded (h : n < 100) : Loose (padded 2 n) n := by
  have hblanks : ∀ c ∈ ([] : List Char), Text.isBlank c = true := by simp
  have hloose := Loose.mk hblanks (digits_padded 2 n) (padded_ne_nil 2 n)
    (length_padded (by simp) h).le
  rwa [List.nil_append, digitsValue_padded] at hloose

theorem signedYear_yearText (year : Int) : SignedYear (yearText year) year := by
  have hvalue : ∀ n, (digitsValue (padded 4 n) : Int) = n := fun n => by rw [digitsValue_padded]
  rw [yearText]
  split
  · rename_i hyear
    have hshort := SignedYear.plain (digits_padded 4 year.toNat) (padded_ne_nil 4 _)
      (length_padded (by simp) (by omega)).le
    rwa [hvalue, Int.toNat_of_nonneg hyear.1] at hshort
  · split
    · have hback := SignedYear.back (digits_padded 4 year.natAbs) (padded_ne_nil 4 _)
      rwa [hvalue, show -(year.natAbs : Int) = year by omega] at hback
    · have hahead := SignedYear.ahead (digits_padded 4 year.natAbs) (padded_ne_nil 4 _)
      rwa [hvalue, show (year.natAbs : Int) = year by omega] at hahead

theorem fraction_padded (hw : 0 < width) (hn : width ≤ 9) (h : n < 10 ^ width) :
    Fraction ('.' :: padded width n) (n * power 10 (9 - width)) := by
  have hlength := length_padded hw h
  have htake : (padded width n).take 9 = padded width n := List.take_of_length_le (by omega)
  have hfraction := Fraction.digits (digits_padded width n) (padded_ne_nil width n)
  rwa [htake, digitsValue_padded, hlength] at hfraction

theorem fraction_fractionText (h : n < 1000000000) : Fraction (fractionText n) n := by
  have hmillion : power 10 6 = 1000000 := rfl
  have hthousand : power 10 3 = 1000 := rfl
  rw [fractionText, hmillion, hthousand]
  split
  · rename_i hzero
    rw [hzero]
    exact .none
  · split
    · have hmillis : Fraction ('.' :: padded 3 (n / 1000000)) (n / 1000000 * power 10 6) :=
        fraction_padded (by simp) (by simp) (by omega)
      rwa [hmillion, Nat.div_mul_cancel (by omega)] at hmillis
    · split
      · have hmicros : Fraction ('.' :: padded 6 (n / 1000)) (n / 1000 * power 10 3) :=
          fraction_padded (by simp) (by simp) (by omega)
        rwa [hthousand, Nat.div_mul_cancel (by omega)] at hmicros
      · have hnanos : Fraction ('.' :: padded 9 n) (n * power 10 0) :=
          fraction_padded (by simp) (by simp) h
        rwa [power, Nat.mul_one] at hnanos

theorem two_digits (h : m.isValid = true) : m.month < 100 ∧ m.day < 100 ∧ m.hour < 100 ∧
    m.minute < 100 ∧ m.second < 100 := by
  obtain ⟨⟨hmonth, hmonth', hday, hday'⟩, hhour, hminute, hsecond, -⟩ := Moment.isValid_iff.mp h
  have := daysInMonth_le m.year m.month
  omega

theorem unzoned_bareText (h : m.isValid = true) : Unzoned (bareText m) m := by
  obtain ⟨hmonth, hday, hhour, hminute, hsecond⟩ := two_digits h
  have hblanks : ∀ c ∈ ([] : List Char), Text.isBlank c = true := by simp
  exact .mk hblanks (signedYear_yearText m.year) (loose_padded hmonth) (loose_padded hday)
    (whole_cons rfl) (.inl rfl) (loose_padded hhour) (loose_padded hminute) (loose_padded hsecond)
    (fraction_fractionText (Moment.isValid_iff.mp h).2.2.2.2)

theorem zoned_momentText (h : m.isValid = true) (h0 : 0 ≤ m.year) (h1 : m.year ≤ 9999) :
    Zoned (momentText m) m 0 := by
  obtain ⟨hmonth, hday, hhour, hminute, hsecond⟩ := two_digits h
  have htwo : ∀ {n : Nat}, n < 100 → Fixed 2 (padded 2 n) n :=
    fun hn => fixed_padded (by simp) hn
  have hyear : Fixed 4 (padded 4 m.year.toNat) m.year.toNat := fixed_padded (by simp) (by omega)
  have hzoned := Zoned.mk hyear (htwo hmonth) (htwo hday) (.inl rfl) (htwo hhour) (htwo hminute)
    (htwo hsecond) (fraction_fractionText (Moment.isValid_iff.mp h).2.2.2.2) (.utc (.inl rfl))
  rw [Int.toNat_of_nonneg h0] at hzoned
  rw [momentText_eq, bareText, yearText, if_pos ⟨h0, h1⟩]
  simpa only [List.append_assoc, List.cons_append] using hzoned

theorem Zoned.opens (h : Zoned cs m offset) : ∃ c rest, cs = c :: rest ∧ c.isDigit = true := by
  cases h with
  | mk hyear =>
      have hne := List.ne_nil_of_length_eq_add_one hyear.length
      obtain ⟨c, rest, rfl⟩ := List.exists_cons_of_ne_nil hne
      exact ⟨c, _, rfl, hyear.digits c (List.mem_cons_self ..)⟩

theorem read?_bareText (h : OnCalendar m) :
    read? (String.ofList (bareText m)) = some (m.toInstant 0) := by
  refine read?_of_gives ?_ h
  rw [String.toList_ofList]
  exact .unzoned (unzoned_bareText h.valid)

theorem read?_momentText (h : m.isValid = true) (h0 : 0 ≤ m.year) (h1 : m.year ≤ 9999) :
    read? (String.ofList (momentText m)) = some (m.toInstant 0) := by
  have hzoned := zoned_momentText h h0 h1
  refine read?_of_gives ?_ (hzoned.onCalendar h)
  rw [String.toList_ofList]
  exact .zoned hzoned

theorem read?_momentText_of_year (h : m.isValid = true) (hyear : ¬(0 ≤ m.year ∧ m.year ≤ 9999)) :
    read? (String.ofList (momentText m)) = none := by
  cases hread : read? (String.ofList (momentText m)) with
  | none => rfl
  | some i =>
      obtain ⟨m', offset, hgives, -⟩ := gives_of_read? hread
      rw [String.toList_ofList, momentText_eq] at hgives
      cases hgives with
      | zoned hz =>
          obtain ⟨c, rest, hc, hdigit⟩ := hz.opens
          rw [bareText, yearText, if_neg hyear] at hc
          obtain ⟨rfl, -⟩ := List.cons.inj hc
          split at hdigit <;> exact absurd hdigit (by decide)
      | unzoned hu =>
          have hmarks := hu.countP
          rw [List.countP_append, (unzoned_bareText h).countP] at hmarks
          exact absurd hmarks (by decide)

end ControlPlane.Timestamp
