import ControlPlane.Json.Printer
import ControlPlane.Json.Reader
import ControlPlane.Proofs.Time.Digits
import Mathlib.Data.List.TakeDrop

namespace ControlPlane.Json

open Timestamp (Digits)

variable {digits : List Char} {n fuel depth : Nat}

def InWord (n : Int) : Prop := -(power 2 63 : Int) ≤ n ∧ n < power 2 64

theorem digits_toDigits (n : Nat) : Digits (Nat.toDigits 10 n) :=
  fun _ hc => Nat.isDigit_of_mem_toDigits (by simp) (by simp) hc

theorem naturalOf_toDigits (n : Nat) : naturalOf (Nat.toDigits 10 n) = n :=
  (Timestamp.digitsValue_eq _).trans (Nat.ofDigitChars_ten_toDigits)

theorem toDigits_ne_zero_cons {c : Char} {rest : List Char} : Nat.toDigits 10 n ≠ '0' :: c :: rest := by
  intro h
  have hvalue : naturalOf (Nat.toDigits 10 n) = naturalOf (c :: rest) := by rw [h]; rfl
  have hlt : naturalOf (c :: rest) < 10 ^ (c :: rest).length :=
    Timestamp.digitsValue_lt fun d hd => digits_toDigits n d (h ▸ List.mem_cons_of_mem _ hd)
  rw [← hvalue, naturalOf_toDigits] at hlt
  have hlength := (Nat.length_toDigits_le_iff (by simp) (by simp)).mpr hlt
  rw [h] at hlength
  simp at hlength

theorem spanDigits_digits (h : Digits digits) : spanDigits digits = (digits, []) := by
  rw [spanDigits, List.span_eq_takeWhile_dropWhile, List.takeWhile_eq_self_iff.mpr h,
    List.dropWhile_eq_nil_iff.mpr h]

theorem readNumber_toDigits (negative : Bool) (n : Nat) : readNumber negative (Nat.toDigits 10 n) =
    (numberValue negative (Nat.toDigits 10 n) [] none).map fun v => (v, []) := by
  rw [readNumber, spanDigits_digits (digits_toDigits n)]
  split
  · rename_i h
    exact absurd (Prod.mk.inj h).1 Nat.toDigits_ne_nil
  · rename_i h
    exact absurd (Prod.mk.inj h).1 toDigits_ne_zero_cons
  · rename_i h
    obtain ⟨rfl, rfl⟩ := Prod.mk.inj h
    change (numberValue negative (Nat.toDigits 10 n) [] none).bind (fun v => some (v, [])) = _
    cases numberValue negative (Nat.toDigits 10 n) [] none <;> rfl

theorem numberValue_natural (h : n < power 2 64) :
    numberValue false (Nat.toDigits 10 n) [] none = some (.integer n) := by
  simp [numberValue, wholeNumber, naturalOf_toDigits, h]

theorem numberValue_negative (hpos : 0 < n) (h : n ≤ power 2 63) :
    numberValue true (Nat.toDigits 10 n) [] none = some (.integer (-(n : Int))) := by
  simp [numberValue, wholeNumber, naturalOf_toDigits, h, hpos]

theorem readValue_digit {c : Char} {rest : List Char} (h : c.isDigit = true) :
    readValue (fuel + 1) depth (c :: rest) = readNumber false (c :: rest) := by
  have hne : ∀ d : Char, d.isDigit = false → c ≠ d := by
    rintro d hd rfl
    rw [h] at hd
    exact absurd hd (by simp)
  have hblank : isBlank c = false := by
    simp [isBlank, hne ' ' rfl, hne '\t' rfl, hne '\n' rfl, hne '\r' rfl]
  rw [readValue, skipBlanks, hblank, if_neg Bool.false_ne_true]
  -- every other case starts with a character that is no digit
  split
  all_goals first
    | rfl
    | rename_i he; exact absurd (List.cons.inj he).1 (hne _ rfl)

theorem readValue_integerText {n : Int} (h : InWord n) :
    readValue (fuel + 1) depth (integerText n) = some (.integer n, []) := by
  rw [integerText]
  by_cases hneg : n < 0
  · rw [if_pos hneg]
    change readNumber true (Nat.toDigits 10 n.natAbs) = _
    rw [readNumber_toDigits, numberValue_negative (by omega) (by have := h.1; omega), Option.map_some]
    congr
    omega
  · rw [if_neg hneg, List.nil_append]
    obtain ⟨c, rest, hdigits⟩ := List.exists_cons_of_ne_nil (@Nat.toDigits_ne_nil n.natAbs 10)
    have hdigit : c.isDigit = true := digits_toDigits n.natAbs c (hdigits ▸ List.mem_cons_self ..)
    rw [hdigits, readValue_digit hdigit, ← hdigits, readNumber_toDigits,
      numberValue_natural (by have := h.2; omega), Option.map_some]
    congr
    omega

theorem parse_integerText {n : Int} (h : InWord n) :
    parse (String.ofList (integerText n)) = some (.integer n) := by
  rw [parse, String.toList_ofList, parseChars, readValue_integerText h]
  rfl

def Exact : Value → Prop
  | .bool _ => True
  | .integer n => InWord n
  | _ => False

theorem parse_compact {v : Value} (h : Exact v) : parse (compact v) = some v := by
  cases v with
  | bool b => cases b <;> rfl
  | integer n => exact parse_integerText h
  | null | float | text | list | record => exact absurd h id

end ControlPlane.Json
