import ControlPlane.Proofs.Attribute.Stored

namespace ControlPlane.Field

inductive Shows (f : Field) : Value → Value → Prop
  | raw {v} (hc : f.coercion = none) : Shows f v v
  | null : Shows f .null .null
  | typed {c v w} (hc : f.coercion = some c) (ha : c.admits w = true) : Shows f v w
  | flag {v} (hc : f.coercion = some (.format .boolText)) (b : Bool) : Shows f v (.bool b)
  | moment {v} (hc : f.coercion = some (.format .timestamp)) (text : String) : Shows f v (.text text)

variable {f : Field} {c : Coercion} {format : Format} {v w : Value}

theorem readPresent_null : f.readPresent .null = .ok .null := by
  rw [readPresent]
  cases f.coercion <;> rfl

theorem readPresent_flag (hc : f.coercion = some (.format .boolText)) (b : Bool) :
    f.readPresent (.bool b) = .ok (.bool b) := by
  rw [readPresent_of_not_admits hc (by simp) rfl]
  rfl

theorem convert_of_readPresent (hc : f.coercion = some c) (hn : v ≠ .null) (ha : c.admits v = false)
    (h : f.readPresent v = .ok w) : c.convert v = .ok w := by
  rw [readPresent_of_not_admits hc hn ha] at h
  cases hw : c.convert v with
  | error e =>
      rw [hw] at h
      have hfails : Except.error (Error.invalidValue _) = Except.ok w := h
      simp at hfails
  | ok u =>
      rw [hw] at h
      exact h

theorem shows_of_format (hc : f.coercion = some (.format format)) (h : format.decode v = .ok w) :
    f.Shows v w := by
  cases format with
  | boolText =>
      rw [Format.decode] at h
      cases hb : Format.readBool v with
      | error e => simp [hb, Except.map] at h
      | ok b =>
          rw [hb] at h
          exact Except.ok.inj h ▸ .flag hc b
  | timestamp =>
      rw [Format.decode, Format.readTimestamp] at h
      split at h
      · exact Except.ok.inj h ▸ .moment hc _
      · simp at h

theorem shows_of_readPresent (h : f.readPresent v = .ok w) : f.Shows v w := by
  cases hc : f.coercion with
  | none =>
      rw [readPresent, hc, Except.ok.injEq] at h
      exact h ▸ .raw hc
  | some c =>
      by_cases hn : v = .null
      · subst hn
        rw [readPresent_null, Except.ok.injEq] at h
        exact h ▸ .null
      by_cases ha : c.admits v = true
      · rw [readPresent_of_admits hc ha, Except.ok.injEq] at h
        exact h ▸ .typed hc ha
      have hconvert := convert_of_readPresent hc hn (Bool.eq_false_iff.mpr ha) h
      by_cases hf : ∃ format, c = .format format
      · obtain ⟨format, rfl⟩ := hf
        exact shows_of_format hc hconvert
      · exact .typed hc (Coercion.convert_admits (not_exists.mp hf) hconvert)

theorem readPresent_ne_null (h : f.readPresent v = .ok w) (hv : v ≠ .null) : w ≠ .null := by
  cases shows_of_readPresent h with
  | raw hc => exact hv
  | null => exact absurd rfl hv
  | typed hc ha =>
      rintro rfl
      rw [Coercion.not_admits_null] at ha
      simp at ha
  | flag hc b => simp
  | moment hc text => simp

theorem readPresent_again (ht : f.coercion ≠ some (.format .timestamp))
    (h : f.readPresent v = .ok w) : f.readPresent w = .ok w := by
  cases shows_of_readPresent h with
  | raw hc => rw [readPresent, hc]
  | null => exact readPresent_null
  | typed hc ha => exact readPresent_of_admits hc ha
  | flag hc b => exact readPresent_flag hc b
  | moment hc text => exact absurd hc ht

end ControlPlane.Field
