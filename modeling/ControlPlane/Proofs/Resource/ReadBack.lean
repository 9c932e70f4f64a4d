import ControlPlane.Proofs.Attribute.Stored
import ControlPlane.Proofs.Resource.Edit

namespace ControlPlane

namespace Component

variable {c : Component} {key : String} {value stored : Value}

theorem get?_set (c : Component) (key : String) (value : Value) :
    ∃ stored, (c.set key value).get? key = some stored ∧ stored.same value = true := by
  rw [set]
  split
  · rename_i h
    cases hs : c.get? key with
    | none => simp [hs] at h
    | some stored => exact ⟨stored, rfl, by simpa [hs] using h⟩
  · exact ⟨value, by rw [get?, Dict.get?_insert, if_pos rfl], Value.same_refl value⟩

theorem set_eq_iff (h : c.get? key = some stored) :
    c.set key value = c ↔ stored.same value = true := by
  constructor
  · intro he
    obtain ⟨stored', hs', hsame⟩ := get?_set c key value
    rw [he, h, Option.some.injEq] at hs'
    exact hs' ▸ hsame
  · intro hs
    rw [set, h, Option.any_some, if_pos hs]

end Component

namespace Resource

def ReadsBack (r : Resource) (name : String) : Prop :=
  ∃ x, r.tryGet name = .ok x ∧ r.set name x = .ok r

structure SetsReadably (r : Resource) (name : String) (f : Field) (v : Value) (r' : Resource) :
    Prop where
  others : ∀ n g, r.schema.field? n = some g → (g.location, g.wire) ≠ (f.location, f.wire) →
    r'.tryGet n = r.tryGet n
  refused : (∃ e, r'.tryGet name = .error e) ↔ f.Misreads v
  settable : ∀ x, r'.tryGet name = .ok x →
    ∃ r'', r'.set name x = .ok r'' ∧ (r'' = r' ↔ ¬f.Recodes v)
  readsBack : r'.ReadsBack name ↔ ¬f.Misreads v ∧ ¬f.Recodes v

variable {r r' : Resource} {name : String} {f : Field} {v w : Value}

theorem set_eq (hf : r.schema.field? name = some f) (v : Value) :
    r.set name v = (f.write v).map fun w =>
      r.withComponent f.location ((r.component f.location).set f.wire w) := by
  have hl : r.schema.lookup? name = some f := by rw [Schema.lookup?, hf]; rfl
  rw [set, hl]
  dsimp only
  cases f.write v <;> rfl

theorem withComponent_eq_iff {location : Location} {c : Component} :
    r.withComponent location c = r ↔ c = r.component location := by
  obtain ⟨schema, body, header, uri⟩ := r
  cases location <;> simp [withComponent, component]

theorem tryGet_of_field (hf : r.schema.field? name = some f) :
    r.tryGet name = f.read (r.stored? f) := by
  rw [tryGet, hf]

theorem tryGet_of_elsewhere {c : Component} {g : Field} (hg : r.schema.field? name = some g)
    (hne : (g.location, g.wire) ≠ (f.location, f.wire))
    (hc : ∀ key, key ≠ f.wire → c.get? key = (r.component f.location).get? key) :
    (r.withComponent f.location c).tryGet name = r.tryGet name := by
  have hg' : (r.withComponent f.location c).schema.field? name = some g := by
    rw [schema_withComponent, hg]
  rw [tryGet_of_field hg, tryGet_of_field hg', stored?, stored?, component_withComponent]
  split
  · rename_i hl
    rw [hc g.wire fun hw => hne (by rw [hl, hw]), hl]
  · rfl

theorem exists_stored_of_set (hf : r.schema.lookup? name = some f) (h : r.set name v = .ok r') :
    ∃ w stored, f.write v = .ok w ∧ r'.stored? f = some stored ∧ stored.same w = true := by
  rw [set, hf] at h
  dsimp only at h
  cases hw : f.write v with
  | error e => simp [hw] at h
  | ok w =>
      rw [hw] at h
      obtain ⟨stored, hstored, hsame⟩ := Component.get?_set (r.component f.location) f.wire w
      refine ⟨w, stored, rfl, ?_, hsame⟩
      rw [← Except.ok.inj h, stored?, component_withComponent, if_pos rfl, hstored]

theorem reads_of_set (hf : r.schema.field? name = some f)
    (ht : f.coercion ≠ some (.format .timestamp)) (h : r.set name v = .ok r') :
    ∃ stored, r'.stored? f = some stored ∧ f.Reads v stored := by
  have hl : r.schema.lookup? name = some f := by rw [Schema.lookup?, hf]; rfl
  obtain ⟨w, stored, hw, hstored, hsame⟩ := exists_stored_of_set hl h
  exact ⟨stored, hstored, Field.reads_of_stores ht (Field.stores_of_write ht hw) hsame⟩

theorem others_of_set (hf : r.schema.field? name = some f) (h : r.set name v = .ok r') :
    ∀ n g, r.schema.field? n = some g → (g.location, g.wire) ≠ (f.location, f.wire) →
      r'.tryGet n = r.tryGet n := by
  intro n g hg hne
  rw [set_eq hf] at h
  cases hw : f.write v with
  | error e => simp [hw, Except.map] at h
  | ok w =>
      rw [hw] at h
      rw [← Except.ok.inj h]
      exact tryGet_of_elsewhere hg hne fun key hk => Component.get?_set_of_ne (Ne.symm hk)

theorem stored_of_set {text : String} (hf : r.schema.lookup? name = some f)
    (hw : f.write v = .ok (.text text)) (h : r.set name v = .ok r') :
    r'.stored? f = some (.text text) := by
  obtain ⟨w, stored, hwrite, hstored, hsame⟩ := exists_stored_of_set hf h
  obtain rfl : .text text = w := Except.ok.inj (hw.symm.trans hwrite)
  rw [hstored, Value.eq_text_of_same hsame]

theorem exists_stored_of_last_set {earlier later : List Edit} (hf : r.schema.lookup? name = some f)
    (h : r.edits (earlier ++ .set name v :: later) = .ok r')
    (hlater : ∀ e ∈ later, r.schema.route e.name ≠ (f.location, f.wire)) :
    ∃ w stored, f.write v = .ok w ∧ r'.stored? f = some stored ∧ stored.same w = true := by
  obtain ⟨before, hbefore, hrest⟩ := edits_append_eq_ok h
  obtain ⟨given, hgiven, hafter⟩ := edits_cons_eq_ok hrest
  have hschema : given.schema = r.schema := (schema_edit hgiven).trans (schema_edits hbefore)
  have hothers : ∀ e ∈ later, given.schema.route e.name ≠ (f.location, f.wire) := by
    rw [hschema]
    exact hlater
  have hkept : r'.stored? f = given.stored? f := get?_edits_elsewhere hafter hothers
  rw [hkept]
  exact exists_stored_of_set (by rw [schema_edits hbefore, hf]) hgiven

theorem stored_of_last_set {text : String} {earlier later : List Edit}
    (hf : r.schema.lookup? name = some f) (hw : f.write v = .ok (.text text))
    (h : r.edits (earlier ++ .set name v :: later) = .ok r')
    (hlater : ∀ e ∈ later, r.schema.route e.name ≠ (f.location, f.wire)) :
    r'.stored? f = some (.text text) := by
  obtain ⟨w, stored, hwrite, hstored, hsame⟩ := exists_stored_of_last_set hf h hlater
  obtain rfl : .text text = w := Except.ok.inj (hw.symm.trans hwrite)
  rw [hstored, Value.eq_text_of_same hsame]

theorem set_again {stored x : Value} (hf : r.schema.field? name = some f)
    (hs : r.stored? f = some stored) (hx : f.write x = .ok w) :
    ∃ r', r.set name x = .ok r' ∧ (r' = r ↔ stored.same w = true) := by
  refine ⟨_, by rw [set_eq hf, hx]; rfl, ?_⟩
  rw [withComponent_eq_iff]
  exact Component.set_eq_iff hs

theorem setsReadably_of_set (hf : r.schema.field? name = some f)
    (ht : f.coercion ≠ some (.format .timestamp)) (h : r.set name v = .ok r') :
    SetsReadably r name f v r' := by
  obtain ⟨stored, hs, hreads⟩ := reads_of_set hf ht h
  have hf' : r'.schema.field? name = some f := by
    rw [schema_edit (e := .set name v) h, hf]
  have hget : r'.tryGet name = f.readPresent stored := by
    rw [tryGet_of_field hf', hs]
    rfl
  have hsettable : ∀ x, r'.tryGet name = .ok x →
      ∃ r'', r'.set name x = .ok r'' ∧ (r'' = r' ↔ ¬f.Recodes v) := by
    intro x hx
    obtain ⟨w, hw, hsame⟩ := hreads.stable x (hget ▸ hx)
    obtain ⟨r'', hset, hr⟩ := set_again hf' hs hw
    exact ⟨r'', hset, hr.trans hsame⟩
  refine ⟨others_of_set hf h, hget ▸ hreads.refused, hsettable, ?_⟩
  constructor
  · rintro ⟨x, hx, hset⟩
    obtain ⟨r'', hset', hr⟩ := hsettable x hx
    rw [hset, Except.ok.injEq] at hset'
    refine ⟨fun hm => ?_, hr.mp hset'.symm⟩
    obtain ⟨e, he⟩ := (hget ▸ hreads.refused).mpr hm
    rw [hx] at he
    simp at he
  · rintro ⟨hm, hr⟩
    cases hx : r'.tryGet name with
    | error e => exact absurd ((hget ▸ hreads.refused).mp ⟨e, hx⟩) hm
    | ok x =>
        obtain ⟨r'', hset, heq⟩ := hsettable x hx
        exact ⟨x, hx, heq.mpr hr ▸ hset⟩

theorem set_reads_back (hf : r.schema.field? name = some f)
    (ht : f.coercion ≠ some (.format .timestamp)) (v : Value) :
    (∀ e, r.set name v = .error e → r.assign [(name, v)] = (.error e, r)) ∧
      ∀ r', r.set name v = .ok r' →
        r.assign [(name, v)] = (.ok (), r') ∧ SetsReadably r name f v r' := by
  refine ⟨fun e he => by rw [assign, he], fun r' h => ⟨?_, setsReadably_of_set hf ht h⟩⟩
  rw [assign, h]
  rfl

def gauge : Schema :=
  { kind := "lab.gauge", service := "lab", basePath := "/gauges"
    fields := FieldTable.base ++
      [{ name := "state", coercion := some .integer, fallback := .text "unknown" },
        { name := "is_public", coercion := some (.format .boolText), fallback := .bool true }] }

def someGauge : Resource := existing gauge (.ofList [("id", .text "g1")])

theorem set_someGauge_reads_back :
    gauge.field? "state" =
        some { name := "state", coercion := some .integer, fallback := .text "unknown" } ∧
      ∃ r', someGauge.set "state" (.text " 42") = .ok r' ∧ r'.ReadsBack "state" := by
  have hf : gauge.field? "state" =
      some { name := "state", coercion := some .integer, fallback := .text "unknown" } := rfl
  have hset := (set_reads_back (r := someGauge) hf (by simp) (.text " 42")).2 _ rfl
  refine ⟨hf, _, rfl, hset.2.readsBack.mpr ⟨?_, ?_⟩⟩
  · rintro ⟨hv, -⟩
    simp [Fallback.toValue] at hv
  · rintro ⟨hv, -⟩
    simp [Fallback.toValue] at hv

theorem fallback_does_not_read_back :
    ¬(∀ r', someGauge.set "state" (.text "unknown") = .ok r' → r'.ReadsBack "state") ∧
      ¬(∀ r', someGauge.set "is_public" (.text "yes") = .ok r' → r'.ReadsBack "is_public") := by
  constructor
  · intro h
    obtain ⟨x, hx, -⟩ := h _ rfl
    have hread : Except.error (Error.invalidValue _) = Except.ok x := hx
    simp at hread
  · intro h
    obtain ⟨x, hx, hset⟩ := h _ rfl
    obtain rfl : Value.bool true = x := Except.ok.inj hx
    have hvalues := congrArg (fun r : Resource => r.body.values.get? "is_public") (Except.ok.inj hset)
    have : some (Value.bool true) = some (.text "true") := hvalues
    simp at this

end Resource

end ControlPlane
