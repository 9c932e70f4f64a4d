import ControlPlane.Attribute.Path
import ControlPlane.Proofs.Attribute.Reading
import ControlPlane.Proofs.Decimal.Literal
import ControlPlane.Proofs.Text.Trim

namespace ControlPlane

variable {f : Field} {c : Coercion} {w x : Value} {n : Int} {b : Bool} {text : String}

theorem trim_integerText (n : Int) : Text.trim (Json.integerText n) = Json.integerText n :=
  Text.trim_of_unblank fun _ => (numeral_integerText n).unblank

namespace Coercion

inductive Textual : Coercion → Prop
  | string : Textual .string
  | boolean : Textual .boolean
  | integer : Textual .integer
  | boolText : Textual (.format .boolText)

inductive Legible : Value → Prop
  | text (s : String) : Legible (.text s)
  | integer {n : Int} (hlow : -(power 2 63 : Int) ≤ n) (hhigh : n < power 2 63) : Legible (.integer n)

theorem toText?_plainText (h : toText? w = some x) (ht : w.plainText? = some text) :
    x = .text text := by
  cases w with
  | null | list | record => simp [toText?] at h
  | text s =>
      rw [Value.plainText?, Option.some.injEq] at ht
      exact ht ▸ (Option.some.inj h).symm
  | integer n =>
      obtain rfl : Json.compact (.integer n) = text := Option.some.inj ht
      exact (Option.some.inj h).symm
  | float y =>
      obtain rfl : Json.compact (.float y) = text := Option.some.inj ht
      have hshown : Json.compact (.float y) = y.toText := String.ofList_toList
      rw [hshown]
      exact (Option.some.inj h).symm
  | bool b =>
      obtain rfl : Json.compact (.bool b) = text := Option.some.inj ht
      cases b <;> exact (Option.some.inj h).symm

theorem parseBool_plainText (h : Format.readBool w = .ok b) (ht : w.plainText? = some text) :
    parseBool text = some b := by
  rcases readBool_eq_ok h with rfl | ⟨s, rfl, hs⟩
  · obtain rfl : Json.compact (.bool b) = text := Option.some.inj ht
    cases b <;> rfl
  · exact Option.some.inj ht ▸ hs

theorem toBoolean?_plainText (h : toBoolean? w = some x) (ht : w.plainText? = some text) :
    toBoolean? (.text text) = some x := by
  cases w with
  | null | float | list | record => simp [toBoolean?] at h
  | text s => exact Option.some.inj ht ▸ h
  | bool b =>
      have hb := parseBool_plainText (b := b) rfl ht
      rw [toBoolean?, hb]
      exact h
  | integer n =>
      obtain rfl : Json.compact (.integer n) = text := Option.some.inj ht
      rw [toBoolean?] at h
      split at h
      · rename_i hn
        subst hn
        exact h
      · split at h
        · rename_i hn
          subst hn
          exact h
        · simp at h

theorem toInteger?_plainText (hw : Legible w) (h : toInteger? w = some x)
    (ht : w.plainText? = some text) : toInteger? (.text text) = some x := by
  cases hw with
  | text s => exact Option.some.inj ht ▸ h
  | @integer n hlow hhigh =>
      obtain rfl : Json.compact (.integer n) = text := Option.some.inj ht
      have hread : readInteger? (Text.trim (Json.compact (.integer n)).toList) = some n := by
        have hshown : (Json.compact (.integer n)).toList = Json.integerText n := String.toList_ofList
        rw [hshown, trim_integerText, readInteger?_of_numeral (numeral_integerText n)]
      rw [toInteger?, hread, Option.bind_some, inWord, if_pos ⟨hlow, hhigh⟩]
      exact h

theorem convert?_of_admits (h : c.admits w = true) : c.convert? w = some w := by
  cases c <;> cases w <;>
    simp [admits, convert?, toText?, toInteger?, toFloat?, toBoolean?] at h ⊢

theorem convert_eq_ok_iff (hf : ∀ format, c ≠ .format format) :
    c.convert w = .ok x ↔ c.convert? w = some x := by
  cases c with
  | format format => exact absurd rfl (hf format)
  | _ =>
      simp only [convert]
      split
      · rename_i v hv
        rw [hv, Except.ok.injEq, Option.some.injEq]
      · rename_i hv
        simp [hv]

end Coercion

namespace Field

theorem readPresent_eq_ok_iff (hc : f.coercion = some c) (hf : ∀ format, c ≠ .format format)
    (hn : w ≠ .null) : f.readPresent w = .ok x ↔ c.convert? w = some x := by
  by_cases ha : c.admits w = true
  · rw [readPresent_of_admits hc ha, Coercion.convert?_of_admits ha, Except.ok.injEq,
      Option.some.injEq]
  · have ha := Bool.eq_false_iff.mpr ha
    constructor
    · exact fun h => (Coercion.convert_eq_ok_iff hf).mp (convert_of_readPresent hc hn ha h)
    · intro h
      rw [readPresent_of_not_admits hc hn ha, (Coercion.convert_eq_ok_iff hf).mpr h]
      rfl

theorem readPresent_plainText (hc : f.coercion = some c) (htextual : c.Textual)
    (hlegible : c = .integer → Coercion.Legible w) (h : f.readPresent w = .ok x)
    (ht : w.plainText? = some text) : f.readPresent (.text text) = .ok x := by
  have hn : w ≠ .null := by
    rintro rfl
    simp [Value.plainText?] at ht
  cases htextual with
  | boolText =>
      obtain ⟨b, hb, rfl⟩ := readPresent_of_word hc hn h
      rw [readPresent_of_not_admits hc (by simp) rfl, Coercion.convert, Format.decode,
        Format.readBool, Coercion.parseBool_plainText hb ht]
      rfl
  | string =>
      rw [readPresent_eq_ok_iff hc (by simp) hn] at h
      rw [readPresent_of_admits hc rfl, Coercion.toText?_plainText h ht]
  | boolean =>
      rw [readPresent_eq_ok_iff hc (by simp) hn] at h
      rw [readPresent_eq_ok_iff hc (by simp) (by simp)]
      simp only [Coercion.convert?] at h ⊢
      exact Coercion.toBoolean?_plainText h ht
  | integer =>
      rw [readPresent_eq_ok_iff hc (by simp) hn] at h
      rw [readPresent_eq_ok_iff hc (by simp) (by simp)]
      simp only [Coercion.convert?] at h ⊢
      exact Coercion.toInteger?_plainText (hlegible rfl) h ht

end Field

end ControlPlane
