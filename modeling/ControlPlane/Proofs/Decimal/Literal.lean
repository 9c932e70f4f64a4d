import ControlPlane.Decimal.Literal
import ControlPlane.Proofs.Json.Scalar
import ControlPlane.Proofs.Time.Reading

namespace ControlPlane

open Timestamp (Digits)

variable {cs ds : List Char} {n : Int} {c : Char} {negative : Bool}

inductive Numeral : List Char → Int → Prop
  | plain {ds : List Char} (hd : Digits ds) (hne : ds ≠ []) : Numeral ds (Nat.ofDigitChars 10 ds 0)
  | plus {ds : List Char} (hd : Digits ds) (hne : ds ≠ []) :
      Numeral ('+' :: ds) (Nat.ofDigitChars 10 ds 0)
  | minus {ds : List Char} (hd : Digits ds) (hne : ds ≠ []) :
      Numeral ('-' :: ds) (-(Nat.ofDigitChars 10 ds 0 : Int))

theorem decimalValue_eq (ds : List Char) : decimalValue ds = Nat.ofDigitChars 10 ds 0 :=
  Timestamp.digitsValue_eq ds

theorem natAbs_signed (negative : Bool) (m : Nat) : (signed negative m).natAbs = m := by
  cases negative <;> simp [signed]

theorem signed_mul (negative : Bool) (m d : Nat) : signed negative (m * d) = signed negative m * d := by
  cases negative <;> simp [signed]

theorem readSign_cases (cs : List Char) :
    (∃ ds, cs = '-' :: ds ∧ readSign cs = (true, ds)) ∨
    (∃ ds, cs = '+' :: ds ∧ readSign cs = (false, ds)) ∨ readSign cs = (false, cs) := by
  unfold readSign
  split
  · exact .inl ⟨_, rfl, rfl⟩
  · exact .inr (.inl ⟨_, rfl, rfl⟩)
  · exact .inr (.inr rfl)

theorem readSign_digits (hd : Digits ds) : readSign ds = (false, ds) := by
  rcases readSign_cases ds with ⟨rest, rfl, -⟩ | ⟨rest, rfl, -⟩ | hsign
  · exact absurd (hd '-' (List.mem_cons_self ..)) (by decide)
  · exact absurd (hd '+' (List.mem_cons_self ..)) (by decide)
  · exact hsign

theorem readInteger?_eq_some (hsign : readSign cs = (negative, ds)) :
    readInteger? cs = some n ↔ Digits ds ∧ ds ≠ [] ∧ n = signed negative (Nat.ofDigitChars 10 ds 0) := by
  have hall : ds.all Char.isDigit = true ↔ Digits ds := List.all_eq_true
  rw [readInteger?, hsign]
  dsimp only
  rw [decimalValue_eq]
  split
  · rename_i hrefused
    rw [Bool.or_eq_true, List.isEmpty_iff, Bool.not_eq_true', Bool.eq_false_iff, Ne, hall]
      at hrefused
    refine iff_of_false (by simp) ?_
    rintro ⟨hd, hne, -⟩
    exact hrefused.elim hne fun hnot => hnot hd
  · rename_i htaken
    rw [Bool.or_eq_true, not_or, List.isEmpty_iff, Bool.not_eq_true', Bool.not_eq_false, hall]
      at htaken
    rw [Option.some.injEq, and_iff_right htaken.2, and_iff_right htaken.1]
    exact eq_comm

theorem numeral_of_readInteger? (h : readInteger? cs = some n) : Numeral cs n := by
  rcases readSign_cases cs with ⟨ds, rfl, hsign⟩ | ⟨ds, rfl, hsign⟩ | hsign
  all_goals obtain ⟨hd, hne, rfl⟩ := (readInteger?_eq_some hsign).mp h
  · exact .minus hd hne
  · exact .plus hd hne
  · exact .plain hd hne

theorem readInteger?_of_numeral (h : Numeral cs n) : readInteger? cs = some n := by
  cases h with
  | plain hd hne => exact (readInteger?_eq_some (readSign_digits hd)).mpr ⟨hd, hne, rfl⟩
  | plus hd hne => exact (readInteger?_eq_some rfl).mpr ⟨hd, hne, rfl⟩
  | minus hd hne => exact (readInteger?_eq_some rfl).mpr ⟨hd, hne, rfl⟩

theorem numeral_integerText (n : Int) : Numeral (Json.integerText n) n := by
  have hd := Json.digits_toDigits n.natAbs
  have hne : Nat.toDigits 10 n.natAbs ≠ [] := Nat.toDigits_ne_nil
  have hvalue : Nat.ofDigitChars 10 (Nat.toDigits 10 n.natAbs) 0 = n.natAbs :=
    Nat.ofDigitChars_ten_toDigits
  rw [Json.integerText]
  by_cases hneg : n < 0
  · have hminus := Numeral.minus hd hne
    have hsigned : -(n.natAbs : Int) = n := by omega
    rw [hvalue, hsigned] at hminus
    rwa [if_pos hneg, List.singleton_append]
  · have hplain := Numeral.plain hd hne
    have hsigned : (n.natAbs : Int) = n := by omega
    rw [hvalue, hsigned] at hplain
    rwa [if_neg hneg, List.nil_append]

theorem Numeral.unblank (h : Numeral cs n) (hc : c ∈ cs) : Text.isBlank c = false := by
  cases h with
  | plain hd hne => exact Timestamp.isBlank_of_isDigit (hd c hc)
  | plus hd hne =>
      rcases List.mem_cons.mp hc with rfl | hc
      · rfl
      · exact Timestamp.isBlank_of_isDigit (hd c hc)
  | minus hd hne =>
      rcases List.mem_cons.mp hc with rfl | hc
      · rfl
      · exact Timestamp.isBlank_of_isDigit (hd c hc)

end ControlPlane
