import ControlPlane.Time.Timestamp
import Mathlib.Data.List.Induction
import Mathlib.Data.List.TakeWhile
import Mathlib.Data.Nat.Digits.Defs

namespace ControlPlane.Timestamp

def Digits (ds : List Char) : Prop := ∀ c ∈ ds, c.isDigit = true

def Undigited (cs : List Char) : Prop := ∀ c rest, cs = c :: rest → c.isDigit = false

variable {ds cs rest : List Char} {c : Char} {n count most width : Nat}

theorem digits_append {ds' : List Char} : Digits (ds ++ ds') ↔ Digits ds ∧ Digits ds' :=
  List.forall_mem_append

theorem undigited_nil : Undigited [] := by
  intro c rest h
  simp at h

theorem undigited_cons (h : c.isDigit = false) : Undigited (c :: rest) := by
  rintro c' rest' he
  obtain ⟨rfl, -⟩ := List.cons.inj he
  exact h

theorem undigited_left (h : Undigited (cs ++ rest)) : Undigited cs := by
  rintro c cs rfl
  exact h c _ rfl

theorem undigited_append (h : Undigited cs) (hne : cs ≠ []) (rest : List Char) :
    Undigited (cs ++ rest) := by
  obtain ⟨c, cs, rfl⟩ := List.exists_cons_of_ne_nil hne
  exact undigited_cons (h c cs rfl)

theorem undigited_dropWhile (cs : List Char) : Undigited (cs.dropWhile Char.isDigit) := by
  intro c rest h
  have := List.head?_dropWhile_not Char.isDigit cs
  rw [h] at this
  simpa using this

theorem takeWhile_digits (hd : Digits ds) (hr : Undigited rest) :
    (ds ++ rest).takeWhile Char.isDigit = ds := by
  rw [List.takeWhile_append_of_pos hd]
  cases rest with
  | nil => rw [List.takeWhile_nil, List.append_nil]
  | cons c rest => rw [List.takeWhile_cons_of_neg (by simp [hr c rest rfl]), List.append_nil]

theorem digits_takeWhile (cs : List Char) : Digits (cs.takeWhile Char.isDigit) :=
  fun _ => List.mem_takeWhile_imp

theorem exists_digits (cs : List Char) : ∃ ds rest, cs = ds ++ rest ∧ Digits ds ∧ Undigited rest :=
  ⟨_, _, List.takeWhile_append_dropWhile.symm, digits_takeWhile cs, undigited_dropWhile cs⟩

theorem takeWhile_take (hd : Digits ds) (hr : Undigited rest) :
    ((ds ++ rest).take most).takeWhile Char.isDigit = ds.take most := by
  rw [List.take_append]
  refine takeWhile_digits (fun c hc => hd c (List.mem_of_mem_take hc)) ?_
  cases hk : most - ds.length with
  | zero => exact undigited_nil
  | succ k =>
      cases rest with
      | nil => exact undigited_nil
      | cons c rest => exact undigited_cons (hr c rest rfl)

theorem number?_digits (hd : Digits ds) (hpos : ds ≠ []) (hm : ds.length ≤ most)
    (hr : ds.length = most ∨ Undigited rest) :
    number? most (ds ++ rest) = some (digitsValue ds, rest) := by
  have htaken : ((ds ++ rest).take most).takeWhile Char.isDigit = ds := by
    rcases hr with rfl | hr
    · rw [List.take_left, List.takeWhile_eq_self_iff.mpr hd]
    · rw [takeWhile_take hd hr, List.take_of_length_le hm]
  rw [number?, htaken, List.drop_left]
  simp [hpos]

theorem number?_eq_some (h : number? most cs = some (n, rest)) : ∃ ds, cs = ds ++ rest ∧
    Digits ds ∧ ds ≠ [] ∧ ds.length ≤ most ∧ (ds.length = most ∨ Undigited rest) ∧
    n = digitsValue ds := by
  obtain ⟨ds, tail, rfl, hd, hr⟩ := exists_digits cs
  rw [number?, takeWhile_take hd hr] at h
  split at h
  · simp at h
  · rename_i hne
    obtain ⟨rfl, rfl⟩ := Prod.mk.inj (Option.some.inj h)
    have hstart : ds.take most <+: ds ++ tail :=
      (List.take_prefix most ds).trans (List.prefix_append ds tail)
    refine ⟨ds.take most, (List.prefix_iff_eq_append.mp hstart).symm,
      fun c hc => hd c (List.mem_of_mem_take hc), by simpa using hne, List.length_take_le most ds,
      ?_, rfl⟩
    rcases Nat.le_total ds.length most with hm | hm
    · rw [List.take_of_length_le hm, List.drop_left]
      exact .inr hr
    · exact .inl (List.length_take_of_le hm)

theorem fixed?_digits (hd : Digits ds) (rest : List Char) :
    fixed? ds.length (ds ++ rest) = some (digitsValue ds, rest) := by
  rw [fixed?, List.take_left, List.takeWhile_eq_self_iff.mpr hd, if_pos rfl, List.drop_left]

theorem fixed?_eq_some (h : fixed? count cs = some (n, rest)) : ∃ ds, cs = ds ++ rest ∧
    Digits ds ∧ ds.length = count ∧ n = digitsValue ds := by
  rw [fixed?] at h
  split at h
  · rename_i hlength
    have hwhole : (cs.take count).takeWhile Char.isDigit = cs.take count := by
      refine (List.takeWhile_prefix _).eq_of_length_le ?_
      rw [hlength]
      exact List.length_take_le count cs
    rw [hwhole] at hlength h
    rw [Option.some.injEq, Prod.mk.injEq] at h
    exact ⟨cs.take count, by rw [← h.2, List.take_append_drop],
      List.takeWhile_eq_self_iff.mp hwhole, hlength, h.1.symm⟩
  · simp at h

theorem digitsValue_eq (ds : List Char) : digitsValue ds = Nat.ofDigitChars 10 ds 0 := by
  simp [digitsValue, Nat.ofDigitChars_eq_foldl, Nat.mul_comm]

theorem digitsValue_lt (hd : Digits ds) : digitsValue ds < 10 ^ ds.length := by
  induction ds using List.reverseRecOn with
  | nil => simp [digitsValue]
  | append_singleton ds c ih =>
      obtain ⟨hds, hc⟩ := digits_append.mp hd
      have hlt := ih hds
      have hdigit : c.toNat - '0'.toNat < 10 := by
        have := hc c (List.mem_singleton.mpr rfl)
        simp only [Char.isDigit, Bool.and_eq_true, decide_eq_true_eq, UInt32.le_iff_toNat_le] at this
        have hnine : c.toNat ≤ '9'.toNat := this.2
        exact Nat.sub_lt_left_of_lt_add this.1 (Nat.lt_succ_of_le hnine)
      rw [digitsValue, List.foldl_append, List.length_append, List.length_singleton, pow_succ]
      change digitsValue ds * 10 + (c.toNat - '0'.toNat) < _
      omega

theorem digits_padded (width n : Nat) : Digits (padded width n) := by
  refine digits_append.mpr ⟨fun c hc => ?_, fun c hc => ?_⟩
  · rw [List.eq_of_mem_replicate hc]
    rfl
  · exact Nat.isDigit_of_mem_toDigits (by simp) (by simp) hc

theorem digitsValue_padded (width n : Nat) : digitsValue (padded width n) = n := by
  rw [digitsValue_eq, padded, Nat.ofDigitChars_append, Nat.ofDigitChars_replicate_zero, mul_zero,
    Nat.ofDigitChars_ten_toDigits]

theorem padded_ne_nil (width n : Nat) : padded width n ≠ [] := by
  rw [padded]
  exact List.append_ne_nil_of_right_ne_nil _ Nat.toDigits_ne_nil

theorem length_padded (hw : 0 < width) (h : n < 10 ^ width) : (padded width n).length = width := by
  have hlength := (Nat.length_toDigits_le_iff (by simp) hw).mpr h
  rw [padded, List.length_append, List.length_replicate]
  omega

end ControlPlane.Timestamp
