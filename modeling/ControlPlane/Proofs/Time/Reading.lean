import ControlPlane.Proofs.Time.Digits
import ControlPlane.Proofs.Time.Instant

namespace ControlPlane.Timestamp

def Reader {α : Type} (Means : List Char → α → Prop)
    (read : List Char → Option (α × List Char)) : Prop :=
  ∀ cs value rest, read cs = some (value, rest) → ∃ text, Means text value ∧ cs = text ++ rest

structure Fixed (count : Nat) (cs : List Char) (n : Nat) : Prop where
  digits : Digits cs
  length : cs.length = count
  value : n = digitsValue cs

inductive Loose : List Char → Nat → Prop where
  | mk {blanks ds : List Char} (hblanks : ∀ c ∈ blanks, Text.isBlank c = true) (hd : Digits ds)
      (hpos : ds ≠ []) (hlength : ds.length ≤ 2) : Loose (blanks ++ ds) (digitsValue ds)

def Whole (text next : List Char) : Prop := 2 ≤ text.countP Char.isDigit ∨ Undigited next

inductive Fraction : List Char → Nat → Prop where
  | none : Fraction [] 0
  | digits {ds : List Char} (hd : Digits ds) (hpos : ds ≠ []) :
      Fraction ('.' :: ds) (digitsValue (ds.take 9) * power 10 (9 - (ds.take 9).length))

inductive Zone : List Char → Int → Prop where
  | utc {c : Char} (h : c = 'Z' ∨ c = 'z') : Zone [c] 0
  | shifted {sign : Char} {hours minutes : List Char} {h m : Nat}
      (hsign : sign = '+' ∨ sign = '-' ∨ sign = '−') (hh : Fixed 2 hours h)
      (hm : Fixed 2 minutes m) (hours_le : h ≤ 23) (minutes_le : m ≤ 59) :
      Zone (sign :: hours ++ ':' :: minutes)
        (if sign = '+' then (h * 3600 + m * 60 : Int) else -(h * 3600 + m * 60 : Int))

inductive SignedYear : List Char → Int → Prop where
  | plain {ds : List Char} (hd : Digits ds) (hpos : ds ≠ []) (hlength : ds.length ≤ 4) :
      SignedYear ds (digitsValue ds)
  | ahead {ds : List Char} (hd : Digits ds) (hpos : ds ≠ []) : SignedYear ('+' :: ds) (digitsValue ds)
  | back {ds : List Char} (hd : Digits ds) (hpos : ds ≠ []) :
      SignedYear ('-' :: ds) (-(digitsValue ds : Int))

inductive Zoned : List Char → Moment → Int → Prop where
  | mk {yearText monthText dayText hourText minuteText secondText fraction zone : List Char}
      {separator : Char} {year month day hour minute second nano : Nat} {offset : Int}
      (hyear : Fixed 4 yearText year) (hmonth : Fixed 2 monthText month) (hday : Fixed 2 dayText day)
      (hseparator : separator = 'T' ∨ separator = 't' ∨ separator = ' ')
      (hhour : Fixed 2 hourText hour) (hminute : Fixed 2 minuteText minute)
      (hsecond : Fixed 2 secondText second) (hfraction : Fraction fraction nano)
      (hzone : Zone zone offset) :
      Zoned (yearText ++ '-' :: (monthText ++ '-' :: (dayText ++ separator :: (hourText ++
        ':' :: (minuteText ++ ':' :: (secondText ++ (fraction ++ zone)))))))
        ⟨year, month, day, hour, minute, second, nano⟩ offset

inductive Unzoned : List Char → Moment → Prop where
  | mk {blanks yearText monthText dayText between hourText minuteText secondText fraction : List Char}
      {year : Int} {month day hour minute second nano : Nat}
      (hblanks : ∀ c ∈ blanks, Text.isBlank c = true)
      (hyear : SignedYear yearText year) (hmonth : Loose monthText month) (hday : Loose dayText day)
      (hwhole : Whole dayText (between ++ hourText))
      (hbetween : between = ['T'] ∨ ∀ c ∈ between, Text.isBlank c = true)
      (hhour : Loose hourText hour) (hminute : Loose minuteText minute)
      (hsecond : Loose secondText second) (hfraction : Fraction fraction nano) :
      Unzoned (blanks ++ (yearText ++ '-' :: (monthText ++ '-' :: (dayText ++ (between ++ (hourText ++
        ':' :: (minuteText ++ ':' :: (secondText ++ fraction))))))))
        ⟨year, month, day, hour, minute, second, nano⟩

inductive Gives : List Char → Moment → Int → Prop where
  | zoned {cs : List Char} {m : Moment} {offset : Int} (h : Zoned cs m offset) : Gives cs m offset
  | unzoned {cs : List Char} {m : Moment} (h : Unzoned cs m) : Gives cs m 0

structure OnCalendar (m : Moment) : Prop where
  valid : m.isValid = true
  first_le : firstYear ≤ m.year
  le_last : m.year ≤ lastYear

variable {cs rest : List Char} {c : Char} {n count : Nat} {m : Moment} {i : Instant} {offset : Int}

theorem Reader.bind {α β : Type} {Means : List Char → α → Prop}
    {read : List Char → Option (α × List Char)} (hread : Reader Means read)
    {f : α × List Char → Option β} {x : β} (h : (read cs).bind f = some x) :
    ∃ text value rest, Means text value ∧ cs = text ++ rest ∧ f (value, rest) = some x := by
  obtain ⟨⟨value, rest⟩, hvalue, hx⟩ := Option.bind_eq_some_iff.mp h
  obtain ⟨text, hmeans, hcs⟩ := hread cs value rest hvalue
  exact ⟨text, value, rest, hmeans, hcs, hx⟩

theorem reader_fixed (count : Nat) : Reader (Fixed count) (fixed? count) := by
  intro cs n rest h
  obtain ⟨ds, hcs, hd, hlength, hn⟩ := fixed?_eq_some h
  exact ⟨ds, ⟨hd, hlength, hn⟩, hcs⟩

theorem literal?_eq_some (h : literal? c cs = some rest) : cs = c :: rest := by
  cases cs with
  | nil => simp [literal?] at h
  | cons d cs =>
      obtain ⟨rfl, rfl⟩ : d = c ∧ cs = rest := by simpa [literal?] using h
      rfl

theorem bind_literal? {β : Type} {f : List Char → Option β} {x : β}
    (h : (literal? c cs).bind f = some x) : ∃ rest, cs = c :: rest ∧ f rest = some x := by
  obtain ⟨rest, hrest, hx⟩ := Option.bind_eq_some_iff.mp h
  exact ⟨rest, literal?_eq_some hrest, hx⟩

theorem bind_separator? {β : Type} {f : List Char → Option β} {x : β}
    (h : (separator? cs).bind f = some x) :
    ∃ c rest, (c = 'T' ∨ c = 't' ∨ c = ' ') ∧ cs = c :: rest ∧ f rest = some x := by
  obtain ⟨rest, hrest, hx⟩ := Option.bind_eq_some_iff.mp h
  cases cs with
  | nil => simp [separator?] at hrest
  | cons c cs =>
      obtain ⟨hc, rfl⟩ : (c = 'T' ∨ c = 't' ∨ c = ' ') ∧ cs = rest := by
        simpa [separator?] using hrest
      exact ⟨c, cs, hc, rfl, hx⟩

theorem reader_fraction : Reader Fraction fraction? := by
  intro cs n rest h
  rw [fraction?.eq_def] at h
  split at h
  · rename_i digits
    dsimp only at h
    split at h
    · simp at h
    · rename_i hne
      rw [Option.some.injEq, Prod.mk.injEq] at h
      obtain ⟨rfl, rfl⟩ := h
      have hstart := List.prefix_iff_eq_append.mp (List.takeWhile_prefix (l := digits) Char.isDigit)
      exact ⟨_, .digits (digits_takeWhile digits) (by simpa using hne),
        congrArg (List.cons '.') hstart.symm⟩
  · rw [Option.some.injEq, Prod.mk.injEq] at h
    obtain ⟨rfl, rfl⟩ := h
    exact ⟨[], .none, rfl⟩

theorem trimStart_cases (cs : List Char) :
    ∃ blanks, (∀ c ∈ blanks, Text.isBlank c = true) ∧ cs = blanks ++ Text.trimStart cs :=
  ⟨cs.takeWhile Text.isBlank, fun _ => List.mem_takeWhile_imp,
    List.takeWhile_append_dropWhile.symm⟩

theorem isBlank_of_isDigit (h : c.isDigit = true) : Text.isBlank c = false := by
  simp only [Char.isDigit, Bool.and_eq_true, decide_eq_true_eq, UInt32.le_iff_toNat_le] at h
  have hlow : 48 ≤ c.toNat := h.1
  have hhigh : c.toNat ≤ 57 := h.2
  simp [Text.isBlank, Text.blankRanges]
  omega

theorem countP_loose {blanks ds : List Char} (hblanks : ∀ c ∈ blanks, Text.isBlank c = true)
    (hd : Digits ds) : (blanks ++ ds).countP Char.isDigit = ds.length := by
  have hnone : blanks.countP Char.isDigit = 0 := by
    rw [List.countP_eq_zero]
    intro c hc hdigit
    simpa [isBlank_of_isDigit hdigit] using hblanks c hc
  rw [List.countP_append, hnone, List.countP_eq_length.mpr hd, Nat.zero_add]

theorem spaced?_eq_some (h : spaced? cs = some (n, rest)) :
    ∃ text, Loose text n ∧ Whole text rest ∧ cs = text ++ rest := by
  obtain ⟨blanks, hblanks, hcs⟩ := trimStart_cases cs
  obtain ⟨ds, htrim, hd, hpos, hlength, hnext, rfl⟩ := number?_eq_some h
  refine ⟨blanks ++ ds, .mk hblanks hd hpos hlength, ?_, by rw [hcs, htrim, List.append_assoc]⟩
  rw [Whole, countP_loose hblanks hd]
  exact hnext.imp_left Eq.ge

theorem reader_loose : Reader Loose spaced? := by
  intro cs n rest h
  obtain ⟨text, hloose, -, hcs⟩ := spaced?_eq_some h
  exact ⟨text, hloose, hcs⟩

theorem Loose.ne_nil (h : Loose cs n) : cs ≠ [] := by
  cases h with
  | mk hblanks hd hpos hlength => exact List.append_ne_nil_of_right_ne_nil _ hpos

theorem number?_map_eq_some {most : Nat} {f : Nat → Int} {year : Int}
    (h : ((number? most cs).map fun read => (f read.1, read.2)) = some (year, rest)) : ∃ ds,
      cs = ds ++ rest ∧ Digits ds ∧ ds ≠ [] ∧ ds.length ≤ most ∧ year = f (digitsValue ds) := by
  obtain ⟨⟨n, rest'⟩, hn, he⟩ := Option.map_eq_some_iff.mp h
  obtain ⟨rfl, rfl⟩ := Prod.mk.inj he
  obtain ⟨ds, hcs, hd, hpos, hlength, -, rfl⟩ := number?_eq_some hn
  exact ⟨ds, hcs, hd, hpos, hlength, rfl⟩

theorem reader_year : Reader SignedYear year? := by
  intro cs year rest h
  rw [year?.eq_def] at h
  split at h
  · obtain ⟨ds, rfl, hd, hpos, -, rfl⟩ := number?_map_eq_some (f := fun n => -(n : Int)) h
    exact ⟨'-' :: ds, .back hd hpos, rfl⟩
  · obtain ⟨ds, rfl, hd, hpos, -, rfl⟩ := number?_map_eq_some (f := fun n => (n : Int)) h
    exact ⟨'+' :: ds, .ahead hd hpos, rfl⟩
  · obtain ⟨ds, rfl, hd, hpos, hlength, rfl⟩ := number?_map_eq_some (f := fun n => (n : Int)) h
    exact ⟨ds, .plain hd hpos hlength, rfl⟩

theorem ended_eq_some {α : Type} {result x : α} (h : ended result cs = some x) :
    cs = [] ∧ x = result := by
  cases cs with
  | nil => exact ⟨rfl, (Option.some.inj h).symm⟩
  | cons c cs => simp [ended] at h

theorem reader_zone : Reader Zone offset? := by
  intro cs offset rest h
  cases cs with
  | nil => simp [offset?] at h
  | cons c cs =>
      rw [offset?] at h
      split at h
      · rename_i hc
        rw [Option.some.injEq, Prod.mk.injEq] at h
        obtain ⟨rfl, rfl⟩ := h
        exact ⟨[c], .utc hc, rfl⟩
      · split at h
        · rename_i hsign
          obtain ⟨hoursText, hours, _, hh, rfl, h1⟩ := (reader_fixed 2).bind h
          obtain ⟨_, rfl, h2⟩ := bind_literal? h1
          obtain ⟨minutesText, minutes, _, hm, rfl, h3⟩ := (reader_fixed 2).bind h2
          dsimp only at h3
          split at h3
          · rename_i hrange
            rw [Option.some.injEq, Prod.mk.injEq] at h3
            obtain ⟨rfl, rfl⟩ := h3
            exact ⟨_, .shifted hsign hh hm hrange.2 hrange.1, by simp⟩
          · simp at h3
        · simp at h

theorem Zone.bounds (h : Zone cs offset) :
    -86400 < offset ∧ offset < 86400 ∧ offset % 60 = 0 := by
  cases h with
  | utc h => simp
  | shifted hsign hh hm hours_le minutes_le => split <;> omega

theorem Fixed.value_lt (h : Fixed count cs n) : n < 10 ^ count := by
  rw [h.value, ← h.length]
  exact digitsValue_lt h.digits

structure InCalendar (i : Instant) : Prop where
  onClock : i.OnClock
  onCalendar : OnCalendar i.toMoment

theorem Zoned.year_bounds (h : Zoned cs m offset) : 0 ≤ m.year ∧ m.year ≤ 9999 := by
  cases h with
  | mk hyear =>
      have := hyear.value_lt
      dsimp only
      omega

theorem Zoned.onCalendar (h : Zoned cs m offset) (hvalid : m.isValid = true) : OnCalendar m := by
  obtain ⟨h0, h1⟩ := h.year_bounds
  refine ⟨hvalid, ?_, ?_⟩
  · rw [firstYear]
    omega
  · rw [lastYear]
    omega

theorem Zoned.offset_bounds (h : Zoned cs m offset) :
    -86400 < offset ∧ offset < 86400 ∧ offset % 60 = 0 := by
  cases h with
  | mk _ _ _ _ _ _ _ _ hzone => exact hzone.bounds

theorem inCalendar_of_gives (h : Gives cs m offset) (hm : OnCalendar m) :
    InCalendar (m.toInstant offset) := by
  cases h with
  | zoned h =>
      obtain ⟨hlow, hhigh, hminutes⟩ := h.offset_bounds
      obtain ⟨h0, h1⟩ := h.year_bounds
      obtain ⟨hfirst, hlast⟩ := Moment.year_near hm.valid hlow hhigh
      have hclock := Moment.onClock_toInstant hm.valid hminutes
      refine ⟨hclock, Instant.isValid_toMoment hclock, ?_, ?_⟩
      · rw [firstYear]
        omega
      · rw [lastYear]
        omega
  | unzoned h =>
      refine ⟨Moment.onClock_toInstant hm.valid (by simp), ?_⟩
      rw [Moment.toMoment_toInstant hm.valid]
      exact hm

theorem zoned_of_withOffset? (h : withOffset? cs = some i) :
    ∃ m offset, Zoned cs m offset ∧ m.isValid = true ∧ i = m.toInstant offset := by
  rw [withOffset?] at h
  obtain ⟨yearText, year, _, hyear, rfl, h1⟩ := (reader_fixed 4).bind h
  obtain ⟨_, rfl, h2⟩ := bind_literal? h1
  obtain ⟨monthText, month, _, hmonth, rfl, h3⟩ := (reader_fixed 2).bind h2
  obtain ⟨_, rfl, h4⟩ := bind_literal? h3
  obtain ⟨dayText, day, _, hday, rfl, h5⟩ := (reader_fixed 2).bind h4
  obtain ⟨separator, _, hseparator, rfl, h6⟩ := bind_separator? h5
  obtain ⟨hourText, hour, _, hhour, rfl, h7⟩ := (reader_fixed 2).bind h6
  obtain ⟨_, rfl, h8⟩ := bind_literal? h7
  obtain ⟨minuteText, minute, _, hminute, rfl, h9⟩ := (reader_fixed 2).bind h8
  obtain ⟨_, rfl, h10⟩ := bind_literal? h9
  obtain ⟨secondText, second, _, hsecond, rfl, h11⟩ := (reader_fixed 2).bind h10
  obtain ⟨fraction, nano, _, hfraction, rfl, h12⟩ := reader_fraction.bind h11
  obtain ⟨zone, offset, _, hzone, rfl, h13⟩ := reader_zone.bind h12
  dsimp only at h13
  split at h13
  · rename_i hvalid
    obtain ⟨rfl, rfl⟩ := ended_eq_some h13
    rw [List.append_nil]
    exact ⟨_, offset, .mk hyear hmonth hday hseparator hhour hminute hsecond hfraction hzone, hvalid,
      rfl⟩
  · simp at h13

theorem unzoned_of_local? {between : List Char → Option (List Char)}
    (hbetween : ∀ cs rest, between cs = some rest →
      ∃ text, (text = ['T'] ∨ ∀ c ∈ text, Text.isBlank c = true) ∧ cs = text ++ rest)
    (h : local? between cs = some i) : ∃ m, Unzoned cs m ∧ OnCalendar m ∧ i = m.toInstant 0 := by
  obtain ⟨blanks, hblanks, hcs⟩ := trimStart_cases cs
  rw [local?] at h
  obtain ⟨yearText, year, _, hyear, htrim, h1⟩ := reader_year.bind h
  obtain ⟨_, rfl, h2⟩ := bind_literal? h1
  obtain ⟨monthText, month, _, hmonth, rfl, h3⟩ := reader_loose.bind h2
  obtain ⟨_, rfl, h4⟩ := bind_literal? h3
  obtain ⟨⟨day, _⟩, hdays, h5⟩ := Option.bind_eq_some_iff.mp h4
  obtain ⟨dayText, hday, hwhole, rfl⟩ := spaced?_eq_some hdays
  obtain ⟨_, hbreak, h6⟩ := Option.bind_eq_some_iff.mp h5
  obtain ⟨breakText, hgap, rfl⟩ := hbetween _ _ hbreak
  obtain ⟨hourText, hour, _, hhour, rfl, h7⟩ := reader_loose.bind h6
  obtain ⟨_, rfl, h8⟩ := bind_literal? h7
  obtain ⟨minuteText, minute, _, hminute, rfl, h9⟩ := reader_loose.bind h8
  obtain ⟨_, rfl, h10⟩ := bind_literal? h9
  obtain ⟨secondText, second, _, hsecond, rfl, h11⟩ := reader_loose.bind h10
  obtain ⟨fraction, nano, _, hfraction, rfl, h12⟩ := reader_fraction.bind h11
  dsimp only at h12
  split at h12
  · rename_i hvalid
    simp only [Bool.and_eq_true, decide_eq_true_eq] at hvalid
    obtain ⟨⟨hvalid, hfirst⟩, hlast⟩ := hvalid
    obtain ⟨rfl, rfl⟩ := ended_eq_some h12
    rw [← List.append_assoc] at hwhole
    rw [hcs, htrim, List.append_nil]
    exact ⟨_, .mk hblanks hyear hmonth hday (hwhole.imp_right undigited_left) hgap hhour hminute
      hsecond hfraction, ⟨hvalid, hfirst, hlast⟩, rfl⟩
  · simp at h12

theorem read?_eq (s : String) : read? s = (withOffset? s.toList).or
    ((local? (literal? 'T') s.toList).or
      (local? (fun cs => some (Text.trimStart cs)) s.toList)) := by
  rw [read?]
  cases withOffset? s.toList with
  | some i => rfl
  | none => cases local? (literal? 'T') s.toList <;> rfl

theorem break_of_literal? (h : literal? 'T' cs = some rest) :
    ∃ text, (text = ['T'] ∨ ∀ c ∈ text, Text.isBlank c = true) ∧ cs = text ++ rest :=
  ⟨['T'], .inl rfl, literal?_eq_some h⟩

theorem break_of_trimStart (h : some (Text.trimStart cs) = some rest) :
    ∃ text, (text = ['T'] ∨ ∀ c ∈ text, Text.isBlank c = true) ∧ cs = text ++ rest := by
  obtain ⟨blanks, hblanks, hcs⟩ := trimStart_cases cs
  exact ⟨blanks, .inr hblanks, by rw [← Option.some.inj h, ← hcs]⟩

theorem gives_of_read? {s : String} (h : read? s = some i) :
    ∃ m offset, Gives s.toList m offset ∧ OnCalendar m ∧ i = m.toInstant offset := by
  rw [read?_eq, Option.or_eq_some_iff, Option.or_eq_some_iff] at h
  have hlocal : ∀ m, Unzoned s.toList m ∧ OnCalendar m ∧ i = m.toInstant 0 →
      ∃ m offset, Gives s.toList m offset ∧ OnCalendar m ∧ i = m.toInstant offset :=
    fun m hm => ⟨m, 0, .unzoned hm.1, hm.2⟩
  rcases h with h | ⟨-, h | ⟨-, h⟩⟩
  · obtain ⟨m, offset, hm, hvalid, hi⟩ := zoned_of_withOffset? h
    exact ⟨m, offset, .zoned hm, hm.onCalendar hvalid, hi⟩
  · obtain ⟨m, hm⟩ := unzoned_of_local? (fun _ _ => break_of_literal?) h
    exact hlocal m hm
  · obtain ⟨m, hm⟩ := unzoned_of_local? (fun _ _ => break_of_trimStart) h
    exact hlocal m hm

end ControlPlane.Timestamp
