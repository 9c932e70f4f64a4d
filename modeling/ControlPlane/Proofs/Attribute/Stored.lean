import ControlPlane.Attribute.Field
import ControlPlane.Proofs.Data.Value

namespace ControlPlane

theorem Fallback.same_iff {d : Fallback} {v : Value} :
    (d.toValue.same v = true ↔ d.toValue = v) ∧ (v.same d.toValue = true ↔ v = d.toValue) := by
  cases d with
  | null | bool b | integer n | text s => cases v <;> simp [toValue, Value.same]
  | emptyList =>
      cases v with
      | list items => cases items <;> simp [toValue, Value.same, Value.sameItems]
      | _ => simp [toValue, Value.same]
  | emptyRecord =>
      cases v with
      | record entries => cases entries <;> simp [toValue, Value.same, Value.sameEntries]
      | _ => simp [toValue, Value.same]

theorem Fallback.toValue_inj {d e : Fallback} : d.toValue = e.toValue ↔ d = e := by
  cases d <;> cases e <;> simp [toValue]

theorem parseBool_boolWord (b : Bool) : parseBool (boolWord b) = some b := by
  cases b <;> rfl

theorem eq_boolWord_iff {text : String} {b : Bool} (h : parseBool text = some b) :
    text = boolWord b ↔ text = "true" ∨ text = "false" := by
  constructor
  · rintro rfl
    cases b with
    | true => exact .inl rfl
    | false => exact .inr rfl
  · rintro (rfl | rfl)
    · rw [show parseBool "true" = some true from parseBool_boolWord true, Option.some.injEq] at h
      rw [← h]
      rfl
    · rw [show parseBool "false" = some false from parseBool_boolWord false,
        Option.some.injEq] at h
      rw [← h]
      rfl

theorem readBool_boolWord (b : Bool) : Format.readBool (.text (boolWord b)) = .ok b := by
  rw [Format.readBool, parseBool_boolWord]

theorem readBool_eq_ok {v : Value} {b : Bool} (h : Format.readBool v = .ok b) :
    v = .bool b ∨ ∃ text, v = .text text ∧ parseBool text = some b := by
  cases v with
  | bool b' => exact .inl (by rw [Except.ok.inj h])
  | text text =>
      rw [Format.readBool] at h
      cases hp : parseBool text with
      | none => simp [hp] at h
      | some b' =>
          rw [hp, Except.ok.injEq] at h
          exact .inr ⟨text, rfl, h ▸ hp⟩
  | _ => simp [Format.readBool] at h

namespace Coercion

theorem admits_of_same {c : Coercion} {v w : Value} (h : w.same v = true)
    (hv : c.admits v = true) : c.admits w = true := by
  cases c <;> cases v <;> cases w <;> simp_all [admits, Value.same]

theorem not_admits_null (c : Coercion) : c.admits .null = false := by
  cases c <;> rfl

theorem not_format_of_admits {c : Coercion} {v : Value} (h : c.admits v = true) (f : Format) :
    c ≠ .format f := by
  rintro rfl
  simp [admits] at h

theorem toInteger?_admits {v w : Value} (h : toInteger? v = some w) :
    Coercion.integer.admits w = true := by
  have hword : ∀ {n : Int}, inWord n = some w → Coercion.integer.admits w = true := by
    intro n hn
    rw [inWord] at hn
    split at hn
    · rw [← Option.some.inj hn]
      rfl
    · simp at hn
  cases v with
  | integer n =>
      simp only [toInteger?, Option.some.injEq] at h
      exact h ▸ rfl
  | float _ | text _ =>
      simp only [toInteger?, Option.bind_eq_some_iff] at h
      obtain ⟨n, -, hn⟩ := h
      exact hword hn
  | _ => simp [toInteger?] at h

theorem toBoolean?_admits {v w : Value} (h : toBoolean? v = some w) :
    Coercion.boolean.admits w = true := by
  cases v with
  | bool b =>
      simp only [toBoolean?, Option.some.injEq] at h
      exact h ▸ rfl
  | text s =>
      simp only [toBoolean?, Option.map_eq_some_iff] at h
      obtain ⟨b, -, rfl⟩ := h
      rfl
  | integer n =>
      simp only [toBoolean?] at h
      split at h
      · exact (Option.some.inj h) ▸ rfl
      · split at h
        · exact (Option.some.inj h) ▸ rfl
        · simp at h
  | _ => simp [toBoolean?] at h

theorem convert?_admits {c : Coercion} {v w : Value} (h : c.convert? v = some w) :
    c.admits w = true := by
  cases c with
  | string => cases v <;> simp [convert?, toText?] at h <;> subst h <;> rfl
  | integer => exact toInteger?_admits h
  | float =>
      cases v with
      | text s =>
          simp only [convert?, toFloat?, Option.map_eq_some_iff] at h
          obtain ⟨x, -, rfl⟩ := h
          rfl
      | _ => simp [convert?, toFloat?] at h <;> subst h <;> rfl
  | boolean => exact toBoolean?_admits h
  | list => cases v <;> simp [convert?] at h; subst h; rfl
  | dict => cases v <;> simp [convert?] at h; subst h; rfl
  | format f => simp [convert?] at h

theorem convert_admits {c : Coercion} {v w : Value} (hc : ∀ f, c ≠ .format f)
    (h : c.convert v = .ok w) : c.admits w = true := by
  cases c with
  | format f => exact absurd rfl (hc f)
  | _ =>
      simp only [convert] at h
      split at h
      · rename_i w' hw
        rw [← Except.ok.inj h]
        exact convert?_admits hw
      · simp at h

end Coercion

namespace Field

def Misreads (f : Field) (v : Value) : Prop :=
  v = f.fallback.toValue ∧ ∃ e, f.readPresent v = .error e

def Recodes (f : Field) (v : Value) : Prop :=
  match f.coercion with
  | none => False
  | some (.format _) =>
      ∃ text, v = .text text ∧ ((∃ b, f.fallback = .bool b ∧ parseBool text = some b) ∨
        f.fallback = .text text ∧ text ≠ "true" ∧ text ≠ "false")
  | some c => v = f.fallback.toValue ∧ v ≠ .null ∧ c.admits v = false

inductive Stores (f : Field) : Value → Value → Prop
  | raw {v} (hc : f.coercion = none) : Stores f v v
  | null {c} (hc : f.coercion = some c) : Stores f .null .null
  | fallback {c} (hc : f.coercion = some c) (hn : f.fallback ≠ .null) :
      Stores f f.fallback.toValue f.fallback.toValue
  | typed {c v w} (hc : f.coercion = some c) (hv : v ≠ f.fallback.toValue)
      (ha : c.admits w = true) : Stores f v w
  | word {v b} (hc : f.coercion = some (.format .boolText)) (hv : v ≠ f.fallback.toValue)
      (hb : Format.readBool v = .ok b) : Stores f v (.text (boolWord b))

variable {f : Field} {c : Coercion} {v w x : Value} {b : Bool}

theorem write_of_raw (hc : f.coercion = none) : f.write v = .ok v := by
  rw [write, hc]

theorem write_of_isNull (hc : f.coercion = some c) : f.write .null = .ok .null := by
  rw [write, hc]
  rfl

theorem write_fallback (hc : f.coercion = some c) :
    f.write f.fallback.toValue = .ok f.fallback.toValue := by
  simp [write, hc, Value.same_refl]

theorem guard_eq_false (hn : v ≠ .null) (hv : v ≠ f.fallback.toValue) :
    (v.isNull || v.same f.fallback.toValue) = false := by
  rw [Value.isNull_eq_false_iff.mpr hn, Bool.false_or, ← Bool.not_eq_true, Fallback.same_iff.2]
  exact hv

theorem write_format {format : Format} (hc : f.coercion = some (.format format)) (hn : v ≠ .null)
    (hv : v ≠ f.fallback.toValue) : f.write v = format.encode v := by
  simp [write, hc, guard_eq_false hn hv]

theorem write_typed (hc : f.coercion = some c) (ht : ∀ format, c ≠ .format format) (hn : v ≠ .null)
    (hv : v ≠ f.fallback.toValue) :
    f.write v = if c.admits v then .ok v else c.convert v := by
  cases c with
  | format format => exact absurd rfl (ht format)
  | _ => simp [write, hc, guard_eq_false hn hv]

theorem write_of_admits (hc : f.coercion = some c) (ha : c.admits v = true) :
    f.write v = .ok v := by
  by_cases hv : v = f.fallback.toValue
  · rw [hv, write_fallback hc]
  · have hn : v ≠ .null := by
      rintro rfl
      simp [Coercion.not_admits_null] at ha
    rw [write_typed hc (Coercion.not_format_of_admits ha) hn hv, if_pos ha]

theorem readPresent_of_admits (hc : f.coercion = some c) (ha : c.admits v = true) :
    f.readPresent v = .ok v := by
  simp [readPresent, hc, ha]

theorem readPresent_of_not_admits (hc : f.coercion = some c) (hn : v ≠ .null)
    (ha : c.admits v = false) : f.readPresent v =
      (c.convert v).mapError fun e => .invalidValue (f.name ++ ": " ++ e.message) := by
  simp [readPresent, hc, ha, Value.isNull_eq_false_iff.mpr hn]

theorem stores_of_write (ht : f.coercion ≠ some (.format .timestamp)) (h : f.write v = .ok w) :
    f.Stores v w := by
  cases hc : f.coercion with
  | none =>
      rw [write_of_raw hc, Except.ok.injEq] at h
      exact h ▸ .raw hc
  | some c =>
      by_cases hn : v = .null
      · subst hn
        rw [write_of_isNull hc, Except.ok.injEq] at h
        exact h ▸ .null hc
      by_cases hv : v = f.fallback.toValue
      · subst hv
        rw [write_fallback hc, Except.ok.injEq] at h
        exact h ▸ .fallback hc fun he => hn (by rw [he]; rfl)
      by_cases hf : ∃ format, c = .format format
      · obtain ⟨format, rfl⟩ := hf
        cases format with
        | timestamp => exact absurd hc ht
        | boolText =>
            rw [write_format hc hn hv, Format.encode] at h
            cases hb : Format.readBool v with
            | error e => simp [hb, Except.map] at h
            | ok b =>
                rw [hb] at h
                exact (Except.ok.inj h) ▸ .word hc hv hb
      · have hf := not_exists.mp hf
        rw [write_typed hc hf hn hv] at h
        split at h
        · rename_i ha
          rw [← Except.ok.inj h]
          exact .typed hc hv ha
        · exact .typed hc hv (Coercion.convert_admits hf h)

structure Reads (f : Field) (v stored : Value) : Prop where
  refused : (∃ e, f.readPresent stored = .error e) ↔ f.Misreads v
  stable : ∀ x, f.readPresent stored = .ok x →
    ∃ w, f.write x = .ok w ∧ (stored.same w = true ↔ ¬f.Recodes v)

theorem reads_of_stable (hread : f.readPresent w = .ok w) (hwrite : f.write w = .ok w)
    (hm : ¬f.Misreads v) (hr : ¬f.Recodes v) : f.Reads v w where
  refused := by simp [hread, hm]
  stable x hx := by
    rw [hread, Except.ok.injEq] at hx
    subst hx
    exact ⟨w, hwrite, by simp [Value.same_refl, hr]⟩

theorem not_misreads_of_ok {x : Value} (h : f.readPresent v = .ok x) : ¬f.Misreads v := by
  rintro ⟨-, e, he⟩
  rw [h] at he
  simp at he

theorem recodes_iff_of_typed (hc : f.coercion = some c) (ht : ∀ format, c ≠ .format format) :
    f.Recodes v ↔ v = f.fallback.toValue ∧ v ≠ .null ∧ c.admits v = false := by
  cases c with
  | format format => exact absurd rfl (ht format)
  | _ => simp only [Recodes, hc]

theorem reads_raw {stored : Value} (hc : f.coercion = none) : f.Reads v stored := by
  have hread : ∀ u, f.readPresent u = .ok u := fun u => by rw [readPresent, hc]
  refine reads_of_stable (hread _) (write_of_raw hc) (not_misreads_of_ok (hread _)) ?_
  simp [Recodes, hc]

theorem reads_null (hc : f.coercion = some c) : f.Reads .null .null := by
  have hread : f.readPresent .null = .ok .null := by
    rw [readPresent, hc]
    rfl
  refine reads_of_stable hread (write_of_isNull hc) (not_misreads_of_ok hread) ?_
  cases c <;> simp [Recodes, hc]

theorem reads_typed (hc : f.coercion = some c) (ha : c.admits w = true)
    (hv : v = f.fallback.toValue → v = w) : f.Reads v w := by
  have hread : f.readPresent w = .ok w := readPresent_of_admits hc ha
  refine reads_of_stable hread (write_of_admits hc ha) ?_ ?_
  · intro hm
    rw [hv hm.1] at hm
    exact not_misreads_of_ok hread hm
  · rw [recodes_iff_of_typed hc (Coercion.not_format_of_admits ha)]
    rintro ⟨he, -, hna⟩
    rw [hv he, ha] at hna
    simp at hna

theorem readPresent_of_word (hc : f.coercion = some (.format .boolText)) (hn : v ≠ .null)
    {x : Value} (h : f.readPresent v = .ok x) : ∃ b, Format.readBool v = .ok b ∧ x = .bool b := by
  rw [readPresent_of_not_admits hc hn rfl] at h
  change ((Format.readBool v).map Value.bool).mapError _ = _ at h
  cases hb : Format.readBool v with
  | error e =>
      rw [hb] at h
      have hfails : Except.error (Error.invalidValue _) = Except.ok x := h
      simp at hfails
  | ok b =>
      rw [hb] at h
      exact ⟨b, rfl, (Except.ok.inj h).symm⟩

theorem write_bool_of_word (hc : f.coercion = some (.format .boolText))
    (hv : Value.bool b ≠ f.fallback.toValue) : f.write (.bool b) = .ok (.text (boolWord b)) :=
  write_format hc (by simp) hv

theorem reads_word (hc : f.coercion = some (.format .boolText)) (hv : v ≠ f.fallback.toValue)
    (hb : Format.readBool v = .ok b) : f.Reads v (.text (boolWord b)) := by
  have hread : f.readPresent (.text (boolWord b)) = .ok (.bool b) := by
    rw [readPresent_of_not_admits hc (by simp) rfl]
    change ((Format.readBool (.text (boolWord b))).map Value.bool).mapError _ = _
    rw [readBool_boolWord]
    rfl
  refine ⟨by simp [hread, Misreads, hv], fun x hx => ?_⟩
  rw [hread, Except.ok.injEq] at hx
  subst hx
  by_cases hd : Value.bool b = f.fallback.toValue
  · -- the reading is the fallback, and is stored as a flag where a word stood
    have hrecodes : f.Recodes v := by
      rw [Recodes, hc]
      rcases readBool_eq_ok hb with rfl | ⟨text, rfl, hp⟩
      · exact absurd hd hv
      · exact ⟨text, rfl, .inl ⟨b, (Fallback.toValue_inj (e := .bool b)).mp hd.symm, hp⟩⟩
    refine ⟨.bool b, hd ▸ write_fallback hc, ?_⟩
    simp [Value.same, hrecodes]
  · refine ⟨_, write_bool_of_word hc hd, ?_⟩
    simp only [Value.same_refl, true_iff]
    rw [Recodes, hc]
    rintro ⟨text, rfl, ⟨b', hf, hp⟩ | ⟨hf, -, -⟩⟩
    · rcases readBool_eq_ok hb with hb | ⟨text', hb, hp'⟩
      · simp at hb
      · obtain rfl : text = text' := by simpa using hb
        rw [hp, Option.some.injEq] at hp'
        exact hd (by rw [hf, hp']; rfl)
    · exact hv (by rw [hf]; rfl)

theorem reads_fallback_word (hc : f.coercion = some (.format .boolText)) (hn : f.fallback ≠ .null) :
    f.Reads f.fallback.toValue f.fallback.toValue := by
  refine ⟨by simp [Misreads], fun x hx => ?_⟩
  obtain ⟨b, hb, rfl⟩ := readPresent_of_word hc (mt (Fallback.toValue_inj (e := .null)).mp hn) hx
  rcases readBool_eq_ok hb with hd | ⟨text, hd, hp⟩
  · rw [← hd]
    refine ⟨_, write_fallback hc, ?_⟩
    simp [Recodes, hc, Value.same_refl, hd]
  · refine ⟨_, write_bool_of_word hc (by simp [hd]), ?_⟩
    have hf : f.fallback = .text text := (Fallback.toValue_inj (e := .text text)).mp hd
    have hword : text = boolWord b ↔ ¬(text ≠ "true" ∧ text ≠ "false") := by
      rw [Classical.not_and_iff_not_or_not, Classical.not_not, Classical.not_not]
      exact eq_boolWord_iff hp
    simpa [Recodes, hc, hf, Fallback.toValue, Value.same] using hword

theorem reads_fallback (ht : f.coercion ≠ some (.format .timestamp)) (hc : f.coercion = some c)
    (hn : f.fallback ≠ .null) : f.Reads f.fallback.toValue f.fallback.toValue := by
  by_cases ha : c.admits f.fallback.toValue = true
  · exact reads_typed hc ha fun _ => rfl
  have ha := Bool.eq_false_iff.mpr ha
  have hnull : f.fallback.toValue ≠ .null := mt (Fallback.toValue_inj (e := .null)).mp hn
  by_cases hf : ∃ format, c = .format format
  · obtain ⟨format, rfl⟩ := hf
    cases format with
    | timestamp => exact absurd hc ht
    | boolText => exact reads_fallback_word hc hn
  · have hf := not_exists.mp hf
    refine ⟨by simp [Misreads], fun x hx => ?_⟩
    rw [readPresent_of_not_admits hc hnull ha] at hx
    cases hx' : c.convert f.fallback.toValue with
    | error e =>
        rw [hx'] at hx
        have hfails : Except.error (Error.invalidValue _) = Except.ok x := hx
        simp at hfails
    | ok y =>
        rw [hx'] at hx
        obtain rfl : y = x := Except.ok.inj hx
        have hadmits := Coercion.convert_admits hf hx'
        refine ⟨y, write_of_admits hc hadmits, ?_⟩
        have hne : f.fallback.toValue ≠ y := by
          intro he
          rw [he, hadmits] at ha
          simp at ha
        rw [Fallback.same_iff.1, recodes_iff_of_typed hc hf]
        simp [hne, hnull, ha]

theorem reads_of_stores (ht : f.coercion ≠ some (.format .timestamp)) (h : f.Stores v w)
    {stored : Value} (hs : stored.same w = true) : f.Reads v stored := by
  cases h with
  | raw hc => exact reads_raw hc
  | null hc =>
      obtain rfl : stored = .null := by cases stored <;> simp [Value.same] at hs ⊢
      exact reads_null hc
  | fallback hc hn =>
      rw [Fallback.same_iff.2.mp hs]
      exact reads_fallback ht hc hn
  | typed hc hv ha => exact reads_typed hc (Coercion.admits_of_same hs ha) fun he => absurd he hv
  | word hc hv hb =>
      obtain rfl : stored = .text _ := Value.eq_text_of_same hs
      exact reads_word hc hv hb

end Field

end ControlPlane
