import ControlPlane.Proofs.Time.Reading
import Mathlib.Data.List.DropRight

namespace ControlPlane.Timestamp

variable {cs rest text blanks ds : List Char} {c : Char} {n nano count month day hour minute second : Nat}
  {year offset : Int} {m : Moment} {i : Instant}

theorem bind_eq {α β : Type} {o : Option α} {f : α → Option β} {a : α} {b : Option β}
    (h : o = some a) (hf : f a = b) : o.bind f = b := by
  rw [h]
  exact hf

theorem fixed?_fixed (h : Fixed count text n) (rest : List Char) :
    fixed? count (text ++ rest) = some (n, rest) := by
  rw [h.value, ← h.length]
  exact fixed?_digits h.digits rest

theorem literal?_cons (c : Char) (cs : List Char) : literal? c (c :: cs) = some cs := if_pos rfl

theorem separator?_cons (h : c = 'T' ∨ c = 't' ∨ c = ' ') (cs : List Char) :
    separator? (c :: cs) = some cs := if_pos h

theorem fraction?_fraction (h : Fraction text nano) (hr : Undigited rest)
    (hpoint : ∀ tail, rest ≠ '.' :: tail) : fraction? (text ++ rest) = some (nano, rest) := by
  cases h with
  | none =>
      rw [List.nil_append, fraction?.eq_def]
      split
      · exact absurd rfl (hpoint _)
      · rfl
  | digits hd hpos =>
      rw [List.cons_append, fraction?, takeWhile_digits hd hr]
      simp [hpos]

theorem Zone.opens (h : Zone text offset) : Undigited text ∧ ∀ tail, text ≠ '.' :: tail := by
  cases h with
  | utc h => rcases h with rfl | rfl <;> exact ⟨undigited_cons rfl, by simp⟩
  | shifted hsign =>
      rcases hsign with rfl | rfl | rfl <;> exact ⟨undigited_cons rfl, by simp⟩

theorem offset?_zone (h : Zone text offset) : offset? text = some (offset, []) := by
  cases h with
  | utc h => exact if_pos h
  | shifted hsign hh hm hours_le minutes_le =>
      rename_i sign hours minutes h m
      have hutc : ¬(sign = 'Z' ∨ sign = 'z') := by
        rcases hsign with rfl | rfl | rfl <;> decide
      have hminutes : fixed? 2 minutes = some (m, []) := by
        simpa using fixed?_fixed hm []
      rw [List.cons_append, offset?, if_neg hutc, if_pos hsign]
      exact bind_eq (fixed?_fixed hh _) (bind_eq (literal?_cons ..)
        (bind_eq hminutes (if_pos ⟨minutes_le, hours_le⟩)))

theorem withOffset?_zoned (h : Zoned cs m offset) (hvalid : m.isValid = true) :
    withOffset? cs = some (m.toInstant offset) := by
  cases h with
  | mk hyear hmonth hday hseparator hhour hminute hsecond hfraction hzone =>
      obtain ⟨hdigits, hpoint⟩ := hzone.opens
      rw [withOffset?]
      refine bind_eq (fixed?_fixed hyear _) (bind_eq (literal?_cons ..) ?_)
      refine bind_eq (fixed?_fixed hmonth _) (bind_eq (literal?_cons ..) ?_)
      refine bind_eq (fixed?_fixed hday _) (bind_eq (separator?_cons hseparator _) ?_)
      refine bind_eq (fixed?_fixed hhour _) (bind_eq (literal?_cons ..) ?_)
      refine bind_eq (fixed?_fixed hminute _) (bind_eq (literal?_cons ..) ?_)
      refine bind_eq (fixed?_fixed hsecond _) (bind_eq (fraction?_fraction hfraction hdigits hpoint) ?_)
      exact bind_eq (offset?_zone hzone) (if_pos hvalid)

theorem trimStart_blanks (hblanks : ∀ c ∈ blanks, Text.isBlank c = true) (cs : List Char) :
    Text.trimStart (blanks ++ cs) = Text.trimStart cs := List.dropWhile_append_of_pos hblanks

theorem trimStart_digits (hd : Digits ds) (hpos : ds ≠ []) (rest : List Char) :
    Text.trimStart (ds ++ rest) = ds ++ rest := by
  obtain ⟨c, ds, rfl⟩ := List.exists_cons_of_ne_nil hpos
  have hdigit : c.isDigit = true := hd c (List.mem_cons_self ..)
  exact List.dropWhile_cons_of_neg (by simp [isBlank_of_isDigit hdigit])

theorem trimStart_signedYear (h : SignedYear text year) (rest : List Char) :
    Text.trimStart (text ++ rest) = text ++ rest := by
  cases h with
  | plain hd hpos => exact trimStart_digits hd hpos rest
  | ahead => exact List.dropWhile_cons_of_neg (by decide)
  | back => exact List.dropWhile_cons_of_neg (by decide)

theorem year?_signedYear (h : SignedYear text year) (hr : Undigited rest) :
    year? (text ++ rest) = some (year, rest) := by
  cases h with
  | plain hd hpos hlength =>
      obtain ⟨c, ds, rfl⟩ := List.exists_cons_of_ne_nil hpos
      have hdigit : c.isDigit = true := hd c (List.mem_cons_self ..)
      rw [year?.eq_def]
      split
      · rename_i heq
        obtain ⟨rfl, -⟩ := List.cons.inj heq
        exact absurd hdigit (by decide)
      · rename_i heq
        obtain ⟨rfl, -⟩ := List.cons.inj heq
        exact absurd hdigit (by decide)
      · rw [number?_digits hd hpos hlength (.inr hr)]
        rfl
  | ahead hd hpos =>
      rw [List.cons_append, year?, number?_digits hd hpos (by simp) (.inr hr)]
      rfl
  | back hd hpos =>
      rw [List.cons_append, year?, number?_digits hd hpos (by simp) (.inr hr)]
      rfl

theorem spaced?_loose (h : Loose text n) (hw : Whole text rest) :
    spaced? (text ++ rest) = some (n, rest) := by
  cases h with
  | mk hblanks hd hpos hlength =>
      rw [Whole, countP_loose hblanks hd] at hw
      rw [spaced?, List.append_assoc, trimStart_blanks hblanks, trimStart_digits hd hpos]
      exact number?_digits hd hpos hlength (hw.imp_left hlength.antisymm)

theorem whole_cons (h : c.isDigit = false) : Whole text (c :: rest) := .inr (undigited_cons h)

theorem Fraction.whole (h : Fraction rest nano) : Whole text rest := by
  cases h with
  | none => exact .inr undigited_nil
  | digits => exact whole_cons rfl

theorem Loose.mem (h : Loose text n) (hc : c ∈ text) : Text.isBlank c = true ∨ c.isDigit = true := by
  cases h with
  | mk hblanks hd => exact (List.mem_append.mp hc).imp (hblanks c) (hd c)

theorem Loose.indented (hblanks : ∀ c ∈ blanks, Text.isBlank c = true) (h : Loose text n) :
    Loose (blanks ++ text) n := by
  cases h with
  | mk hb hd hpos hlength =>
      rw [← List.append_assoc]
      exact .mk (fun c hc => (List.mem_append.mp hc).elim (hblanks c) (hb c)) hd hpos hlength

theorem literal?_loose (h : Loose text n) (rest : List Char) : literal? 'T' (text ++ rest) = none := by
  obtain ⟨c, cs, rfl⟩ := List.exists_cons_of_ne_nil h.ne_nil
  refine if_neg ?_
  rintro rfl
  rcases h.mem (List.mem_cons_self ..) with hblank | hdigit
  · exact absurd hblank (by decide)
  · exact absurd hdigit (by decide)

def timeOfDay? (year : Int) (month day : Nat) (cs : List Char) : Option Instant := do
  let (hour, cs) ← spaced? cs
  let (minute, cs) ← spaced? (← literal? ':' cs)
  let (second, cs) ← spaced? (← literal? ':' cs)
  let (nano, cs) ← fraction? cs
  let moment : Moment := ⟨year, month, day, hour, minute, second, nano⟩
  if moment.isValid && firstYear ≤ year && year ≤ lastYear then ended (moment.toInstant 0) cs else none

theorem timeOfDay?_trimStart (cs : List Char) :
    timeOfDay? year month day (Text.trimStart cs) = timeOfDay? year month day cs := by
  have hspaced : spaced? (Text.trimStart cs) = spaced? cs := by
    rw [spaced?, spaced?, Text.trimStart, Text.trimStart, List.dropWhile_idempotent]
  rw [timeOfDay?, timeOfDay?, hspaced]

theorem timeOfDay?_time {hourText minuteText secondText fraction : List Char}
    (hhour : Loose hourText hour) (hminute : Loose minuteText minute) (hsecond : Loose secondText second)
    (hfraction : Fraction fraction nano) (hm : OnCalendar ⟨year, month, day, hour, minute, second, nano⟩) :
    timeOfDay? year month day
      (hourText ++ ':' :: (minuteText ++ ':' :: (secondText ++ fraction))) =
        some (Moment.toInstant ⟨year, month, day, hour, minute, second, nano⟩ 0) := by
  obtain ⟨hvalid, hfirst, hlast⟩ := hm
  have hend : fraction? fraction = some (nano, []) := by
    simpa using fraction?_fraction hfraction undigited_nil (by simp)
  rw [timeOfDay?]
  refine bind_eq (spaced?_loose hhour (whole_cons rfl)) (bind_eq (literal?_cons ..) ?_)
  refine bind_eq (spaced?_loose hminute (whole_cons rfl)) (bind_eq (literal?_cons ..) ?_)
  refine bind_eq (spaced?_loose hsecond hfraction.whole) (bind_eq hend ?_)
  dsimp only at hfirst hlast
  exact if_pos (by simp [hvalid, hfirst, hlast])

theorem local?_date {yearText monthText dayText : List Char} (between : List Char → Option (List Char))
    (hblanks : ∀ c ∈ blanks, Text.isBlank c = true) (hyear : SignedYear yearText year)
    (hmonth : Loose monthText month) (hday : Loose dayText day) (hwhole : Whole dayText rest) :
    local? between (blanks ++ (yearText ++ '-' :: (monthText ++ '-' :: (dayText ++ rest)))) =
      (between rest).bind (timeOfDay? year month day) := by
  rw [local?, trimStart_blanks hblanks, trimStart_signedYear hyear]
  refine bind_eq (year?_signedYear hyear (undigited_cons rfl)) (bind_eq (literal?_cons ..) ?_)
  refine bind_eq (spaced?_loose hmonth (whole_cons rfl)) (bind_eq (literal?_cons ..) ?_)
  exact bind_eq (spaced?_loose hday hwhole) rfl

theorem local?_unzoned (h : Unzoned cs m) (hm : OnCalendar m) :
    (local? (literal? 'T') cs).or (local? (fun cs => some (Text.trimStart cs)) cs) =
      some (m.toInstant 0) := by
  cases h with
  | mk hblanks hyear hmonth hday hwhole hbetween hhour hminute hsecond hfraction =>
      rename_i between hourText minuteText secondText fraction _ _ _ _ _ _ _
      have hnext : ∀ rest, Whole _ (between ++ (hourText ++ rest)) := fun rest => by
        rw [← List.append_assoc]
        exact hwhole.imp_right fun h =>
          undigited_append h (List.append_ne_nil_of_right_ne_nil _ hhour.ne_nil) rest
      rw [local?_date _ hblanks hyear hmonth hday (hnext _),
        local?_date _ hblanks hyear hmonth hday (hnext _)]
      rcases hbetween with rfl | hbetween
      · rw [List.singleton_append, literal?_cons, Option.bind_some,
          timeOfDay?_time hhour hminute hsecond hfraction hm]
        rfl
      · have hlater := hhour.indented hbetween
        rw [← List.append_assoc, literal?_loose hlater, Option.bind_none, Option.none_or,
          Option.bind_some, timeOfDay?_trimStart, timeOfDay?_time hlater hminute hsecond hfraction hm]

def isMark (c : Char) : Bool := c == ':' || c == 'Z' || c == 'z'

theorem countP_of_unmarked {p : Char → Bool} (hp : p ':' = false ∧ p 'Z' = false ∧ p 'z' = false)
    (h : ∀ c ∈ cs, p c = true) : cs.countP isMark = 0 := by
  obtain ⟨hcolon, hupper, hlower⟩ := hp
  rw [List.countP_eq_zero]
  intro c hc hmark
  have hmem := h c hc
  simp only [isMark, Bool.or_eq_true, beq_iff_eq] at hmark
  rcases hmark with (rfl | rfl) | rfl
  · simp [hcolon] at hmem
  · simp [hupper] at hmem
  · simp [hlower] at hmem

theorem countP_digits (hd : Digits ds) : ds.countP isMark = 0 := countP_of_unmarked ⟨rfl, rfl, rfl⟩ hd

theorem countP_blanks (hblanks : ∀ c ∈ blanks, Text.isBlank c = true) : blanks.countP isMark = 0 :=
  countP_of_unmarked ⟨rfl, rfl, rfl⟩ hblanks

theorem Loose.countP (h : Loose text n) : text.countP isMark = 0 := by
  cases h with
  | mk hblanks hd => rw [List.countP_append, countP_blanks hblanks, countP_digits hd]

theorem Fraction.countP (h : Fraction text nano) : text.countP isMark = 0 := by
  cases h with
  | none => rfl
  | digits hd => exact (List.countP_cons_of_neg (by decide)).trans (countP_digits hd)

theorem SignedYear.countP (h : SignedYear text year) : text.countP isMark = 0 := by
  cases h with
  | plain hd => exact countP_digits hd
  | ahead hd => exact (List.countP_cons_of_neg (by decide)).trans (countP_digits hd)
  | back hd => exact (List.countP_cons_of_neg (by decide)).trans (countP_digits hd)

theorem Zone.countP (h : Zone text offset) : text.countP isMark = 1 := by
  cases h with
  | utc h => rcases h with rfl | rfl <;> rfl
  | shifted hsign hh hm =>
      rename_i sign _ _ _ _ _ _
      have hnone : ¬isMark sign = true := by
        rcases hsign with rfl | rfl | rfl <;> exact Bool.false_ne_true
      rw [List.cons_append, List.countP_cons_of_neg hnone, List.countP_append,
        countP_digits hh.digits, List.countP_cons_of_pos rfl, countP_digits hm.digits]

theorem Zoned.countP (h : Zoned cs m offset) : cs.countP isMark = 3 := by
  cases h with
  | mk hyear hmonth hday hseparator hhour hminute hsecond hfraction hzone =>
      rename_i separator _ _ _ _ _ _ _
      have hletter : isMark separator = false := by
        rcases hseparator with rfl | rfl | rfl <;> rfl
      have hdash : isMark '-' = false := rfl
      have hcolon : isMark ':' = true := rfl
      simp only [List.countP_append, List.countP_cons, countP_digits hyear.digits,
        countP_digits hmonth.digits, countP_digits hday.digits, countP_digits hhour.digits,
        countP_digits hminute.digits, countP_digits hsecond.digits, hfraction.countP, hzone.countP,
        hletter, hdash, hcolon]
      rfl

theorem Unzoned.countP (h : Unzoned cs m) : cs.countP isMark = 2 := by
  cases h with
  | mk hblanks hyear hmonth hday hwhole hbetween hhour hminute hsecond hfraction =>
      rename_i between _ _ _ _ _ _ _ _ _ _ _
      have hgap : between.countP isMark = 0 := hbetween.elim (fun h => by rw [h]; rfl) countP_blanks
      have hdash : isMark '-' = false := rfl
      have hcolon : isMark ':' = true := rfl
      simp only [List.countP_append, List.countP_cons, countP_blanks hblanks, hyear.countP,
        hmonth.countP, hday.countP, hgap, hhour.countP, hminute.countP, hsecond.countP,
        hfraction.countP, hdash, hcolon]
      rfl

theorem withOffset?_unzoned (h : Unzoned cs m) : withOffset? cs = none := by
  cases hread : withOffset? cs with
  | none => rfl
  | some i =>
      obtain ⟨m', offset, hz, -⟩ := zoned_of_withOffset? hread
      have hmarks := hz.countP
      rw [h.countP] at hmarks
      omega

theorem read?_of_gives {s : String} (h : Gives s.toList m offset) (hm : OnCalendar m) :
    read? s = some (m.toInstant offset) := by
  rw [read?_eq]
  cases h with
  | zoned h => rw [withOffset?_zoned h hm.valid, Option.some_or]
  | unzoned h => rw [withOffset?_unzoned h, Option.none_or, local?_unzoned h hm]

end ControlPlane.Timestamp
