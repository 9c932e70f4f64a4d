import ControlPlane.Proofs.Attribute.Textual
import ControlPlane.Proofs.Decimal.Double

namespace ControlPlane

variable {f : Field} {v w : Value} {n : Int}

inductive Value.Means : Value → Int → Prop
  | integer (n : Int) : Means (.integer n) n
  | float {x : Double} {n : Int} (h : x.toRat = n) : Means (.float x) n
  | text {s : String} {core : List Char} {n : Int} (hcore : Numeral core n)
      (hs : Text.Padded core s.toList) : Means (.text s) n

namespace Coercion

def InSignedWord (n : Int) : Prop := -(power 2 63 : Int) ≤ n ∧ n < power 2 63

theorem inWord_eq_some_iff : inWord n = some w ↔ InSignedWord n ∧ w = .integer n := by
  rw [inWord, Option.ite_none_right_eq_some, Option.some.injEq, eq_comm (b := w), InSignedWord]

theorem readInteger?_trim {s : String} : readInteger? (Text.trim s.toList) = some n ↔
    (Value.text s).Means n := by
  constructor
  · intro h
    exact .text (numeral_of_readInteger? h) (Text.padded_trim _)
  · rintro (_ | _ | ⟨hcore, hs⟩)
    rw [Text.trim_of_padded (fun _ => hcore.unblank) hs]
    exact readInteger?_of_numeral hcore

theorem means_float {x : Double} : x.toInt? = some n ↔ (Value.float x).Means n := by
  rw [Double.toInt?_eq_some_iff]
  constructor
  · exact .float
  · rintro (_ | h | _)
    exact h

theorem toInteger?_eq_some_iff (hv : ∀ m, v ≠ .integer m) :
    toInteger? v = some w ↔ ∃ n, v.Means n ∧ InSignedWord n ∧ w = .integer n := by
  have hfound : ∀ o : Option Int, (∀ n, o = some n ↔ v.Means n) →
      (o.bind inWord = some w ↔ ∃ n, v.Means n ∧ InSignedWord n ∧ w = .integer n) := by
    intro o ho
    simp only [Option.bind_eq_some_iff, ho, inWord_eq_some_iff]
  cases v with
  | integer m => exact absurd rfl (hv m)
  | float x => exact hfound _ fun n => means_float
  | text s => exact hfound _ fun n => readInteger?_trim
  | null | bool | list | record =>
      refine iff_of_false (by simp [toInteger?]) ?_
      rintro ⟨n, hmeans, -⟩
      cases hmeans

theorem not_admits_integer (hv : ∀ m, v ≠ .integer m) : Coercion.integer.admits v = false := by
  cases v with
  | integer m => exact absurd rfl (hv m)
  | null | bool | float | text | list | record => rfl

end Coercion

namespace Field

open Coercion (InSignedWord)

theorem readPresent_of_means (hc : f.coercion = some .integer) (h : v.Means n) (hn : InSignedWord n) :
    f.readPresent v = .ok (.integer n) := by
  have hnull : v ≠ .null := by
    rintro rfl
    cases h
  rw [readPresent_eq_ok_iff hc (by simp) hnull]
  by_cases hv : ∃ m, v = .integer m
  · obtain ⟨m, rfl⟩ := hv
    cases h
    rfl
  · exact (Coercion.toInteger?_eq_some_iff (not_exists.mp hv)).mpr ⟨n, h, hn, rfl⟩

def notWhole (f : Field) (v : Value) : Error :=
  .invalidValue (f.name ++ ": " ++
    (Error.invalidValue ("cannot convert " ++ Json.compact v ++ " to " ++ "Integer")).message)

theorem readPresent_of_not_means (hc : f.coercion = some .integer) (hnull : v ≠ .null)
    (hv : ∀ m, v ≠ .integer m) (h : ∀ n, v.Means n → ¬InSignedWord n) :
    f.readPresent v = .error (f.notWhole v) := by
  have hnone : Coercion.integer.convert? v = none := by
    refine Option.eq_none_iff_forall_ne_some.mpr fun w hw => ?_
    obtain ⟨n, hmeans, hn, -⟩ := (Coercion.toInteger?_eq_some_iff hv).mp hw
    exact h n hmeans hn
  have hfails : Coercion.integer.convert v =
      .error (.invalidValue ("cannot convert " ++ Json.compact v ++ " to " ++ "Integer")) := by
    simp only [Coercion.convert, hnone]
    rfl
  rw [readPresent_of_not_admits hc hnull (Coercion.not_admits_integer hv), hfails]
  rfl

structure ReadsWholeNumbers (f : Field) : Prop where
  whole : ∀ n, Json.InWord n → f.read (some (.integer n)) = .ok (.integer n)
  converted : ∀ v n, v.Means n → InSignedWord n → f.read (some v) = .ok (.integer n)
  refused : ∀ v, v ≠ .null → (∀ m, v ≠ .integer m) → (∀ n, v.Means n → ¬InSignedWord n) →
    f.read (some v) = .error (f.notWhole v)

theorem reads_whole_numbers {f : Field} (hc : f.coercion = some .integer) : f.ReadsWholeNumbers where
  whole _ _ := readPresent_of_admits hc rfl
  converted _ _ h hn := readPresent_of_means hc h hn
  refused _ hnull hv h := readPresent_of_not_means hc hnull hv h

theorem size_reads_whole_numbers :
    let size : Field := { name := "size", coercion := some .integer }
    size.coercion = some .integer ∧ size.ReadsWholeNumbers ∧
      ∀ v ∈ [.integer 42, .float ⟨false, 5910974510923776, -47⟩, .text "42", .text " +0042\n"],
        size.read (some v) = .ok (.integer 42) :=
  ⟨rfl, reads_whole_numbers rfl, by decide⟩

theorem big_number_read_in_one_form :
    let size : Field := { name := "size", coercion := some .integer }
    let n : Int := 9223372036854775808
    let written : Value := .text "9223372036854775808"
    let rounded : Value := .float ⟨false, 4503599627370496, 11⟩
    Json.InWord n ∧ written.Means n ∧ rounded.Means n ∧
      size.read (some (.integer n)) = .ok (.integer n) ∧
      size.read (some written) = .error (size.notWhole written) ∧
      size.read (some rounded) = .error (size.notWhole rounded) :=
  ⟨⟨by decide, by decide⟩, Coercion.readInteger?_trim.mp (by decide),
    Coercion.means_float.mp (by decide), rfl, rfl, rfl⟩

end Field

end ControlPlane
