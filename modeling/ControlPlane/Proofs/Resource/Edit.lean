import ControlPlane.Proofs.Attribute.Delta
import ControlPlane.Resource

namespace ControlPlane

inductive Edit where
  | set (name : String) (value : Value)
  | unset (name : String)
  deriving DecidableEq, Repr

def Edit.name : Edit → String
  | .set name _ => name
  | .unset name => name

namespace Resource

def edit (r : Resource) : Edit → Except Error Resource
  | .set name value => r.set name value
  | .unset name => r.unset name

def edits (r : Resource) : List Edit → Except Error Resource
  | [] => .ok r
  | e :: rest =>
      match r.edit e with
      | .error e => .error e
      | .ok r => r.edits rest

structure Kept (P : Component → Prop) : Prop where
  set : ∀ c key value, P c → P (c.set key value)
  remove : ∀ c key, P c → P (c.remove key)

variable {r r' : Resource} {P : Component → Prop}

theorem component_withComponent (r : Resource) (location place : Location) (c : Component) :
    (r.withComponent location c).component place =
      if location = place then c else r.component place := by
  cases location <;> cases place <;> rfl

theorem schema_withComponent (r : Resource) (location : Location) (c : Component) :
    (r.withComponent location c).schema = r.schema := by
  cases location <;> rfl

theorem edit_eq_ok {e : Edit} (h : r.edit e = .ok r') :
    ∃ f c, r.schema.lookup? e.name = some f ∧ r' = r.withComponent f.location c ∧
      ((∃ value, c = (r.component f.location).set f.wire value) ∨
        c = (r.component f.location).remove f.wire) := by
  cases e with
  | set name value =>
      simp only [edit, set] at h
      split at h
      · simp at h
      · rename_i f hf
        split at h
        · simp at h
        · rename_i v _
          simp only [Except.ok.injEq] at h
          exact ⟨f, _, hf, h.symm, .inl ⟨v, rfl⟩⟩
  | unset name =>
      simp only [edit, unset] at h
      split at h
      · simp at h
      · rename_i f hf
        simp only [Except.ok.injEq] at h
        exact ⟨f, _, hf, h.symm, .inr rfl⟩

theorem schema_edit {e : Edit} (h : r.edit e = .ok r') : r'.schema = r.schema := by
  obtain ⟨f, c, -, rfl, -⟩ := edit_eq_ok h
  exact schema_withComponent r f.location c

theorem kept_edit (hP : Kept P) {e : Edit} (h : r.edit e = .ok r') (place : Location)
    (hr : P (r.component place)) : P (r'.component place) := by
  obtain ⟨f, c, -, rfl, hc⟩ := edit_eq_ok h
  rw [component_withComponent]
  split
  · rename_i hf
    subst hf
    rcases hc with ⟨value, rfl⟩ | rfl
    · exact hP.set _ _ _ hr
    · exact hP.remove _ _ hr
  · exact hr

theorem route_eq {s : Schema} {key : String} {f : Field} (h : s.lookup? key = some f) :
    s.route key = (f.location, f.wire) := by
  rw [Schema.route, h]

theorem get?_edit_elsewhere {e : Edit} (h : r.edit e = .ok r') {place : Location × String}
    (hne : r.schema.route e.name ≠ place) :
    (r'.component place.1).get? place.2 = (r.component place.1).get? place.2 := by
  obtain ⟨f, c, hf, rfl, hc⟩ := edit_eq_ok h
  rw [route_eq hf] at hne
  rw [component_withComponent]
  split
  · rename_i hl
    have hwire : f.wire ≠ place.2 := fun hw => hne (by rw [hl, hw])
    rw [← hl]
    rcases hc with ⟨value, rfl⟩ | rfl
    · exact Component.get?_set_of_ne hwire
    · exact Component.get?_remove_of_ne hwire
  · rfl

theorem component_edit_elsewhere {e : Edit} (h : r.edit e = .ok r') {location : Location}
    (hne : (r.schema.route e.name).1 ≠ location) : r'.component location = r.component location := by
  obtain ⟨f, c, hf, rfl, -⟩ := edit_eq_ok h
  rw [route_eq hf] at hne
  rw [component_withComponent, if_neg hne]

theorem edits_cons_eq_ok {e : Edit} {es : List Edit} (h : r.edits (e :: es) = .ok r') :
    ∃ middle, r.edit e = .ok middle ∧ middle.edits es = .ok r' := by
  rw [edits] at h
  cases he : r.edit e with
  | error e => simp [he] at h
  | ok middle => exact ⟨middle, rfl, by rwa [he] at h⟩

theorem edits_invariant {I : Resource → Prop}
    (step : ∀ r e r', r.edit e = .ok r' → I r → I r') {es : List Edit}
    (h : r.edits es = .ok r') (hr : I r) : I r' := by
  induction es generalizing r with
  | nil =>
      simp only [edits, Except.ok.injEq] at h
      exact h ▸ hr
  | cons e rest ih =>
      obtain ⟨middle, he, hrest⟩ := edits_cons_eq_ok h
      exact ih hrest (step r e middle he hr)

theorem schema_edits {es : List Edit} (h : r.edits es = .ok r') : r'.schema = r.schema :=
  edits_invariant (fun _ _ _ he hs => (schema_edit he).trans hs) h rfl

theorem edits_append_eq_ok {es es' : List Edit} (h : r.edits (es ++ es') = .ok r') :
    ∃ middle, r.edits es = .ok middle ∧ middle.edits es' = .ok r' := by
  induction es generalizing r with
  | nil => exact ⟨r, rfl, h⟩
  | cons e rest ih =>
      obtain ⟨next, he, hrest⟩ := edits_cons_eq_ok h
      obtain ⟨middle, hm, hlast⟩ := ih hrest
      exact ⟨middle, by rw [edits, he]; exact hm, hlast⟩

theorem edits_frame {α : Type} {f : Resource → α} {Q : Schema → String → Prop}
    (step : ∀ r e r', r.edit e = .ok r' → Q r.schema e.name → f r' = f r) {es : List Edit}
    (h : r.edits es = .ok r') (hes : ∀ e ∈ es, Q r.schema e.name) : f r' = f r := by
  induction es generalizing r with
  | nil =>
      simp only [edits, Except.ok.injEq] at h
      rw [h]
  | cons e rest ih =>
      obtain ⟨middle, he, hrest⟩ := edits_cons_eq_ok h
      have hothers : ∀ e' ∈ rest, Q middle.schema e'.name := fun e' he' =>
        schema_edit he ▸ hes e' (List.mem_cons_of_mem _ he')
      rw [ih hrest hothers, step r e middle he (hes e (List.mem_cons_self ..))]

theorem get?_edits_elsewhere {es : List Edit} (h : r.edits es = .ok r') {place : Location × String}
    (hne : ∀ e ∈ es, r.schema.route e.name ≠ place) :
    (r'.component place.1).get? place.2 = (r.component place.1).get? place.2 :=
  edits_frame (f := fun r => (r.component place.1).get? place.2)
    (Q := fun s key => s.route key ≠ place)
    (fun _ _ _ he hne => get?_edit_elsewhere he hne) h hne

theorem component_edits_elsewhere {es : List Edit} (h : r.edits es = .ok r') {location : Location}
    (hne : ∀ e ∈ es, (r.schema.route e.name).1 ≠ location) :
    r'.component location = r.component location :=
  edits_frame (f := fun r => r.component location)
    (Q := fun s key => (s.route key).1 ≠ location)
    (fun _ _ _ he hne => component_edit_elsewhere he hne) h hne

theorem assign_eq_ok {attrs : List (String × Value)} (h : r.assign attrs = (.ok (), r')) :
    r.edits (attrs.map fun e => .set e.1 e.2) = .ok r' := by
  induction attrs generalizing r with
  | nil => simpa [assign, edits] using h
  | cons e rest ih =>
      obtain ⟨name, value⟩ := e
      rw [assign] at h
      rw [List.map_cons, edits, edit]
      cases hset : r.set name value with
      | error e => simp [hset] at h
      | ok middle =>
          rw [hset] at h
          exact ih h

theorem kept_edits (hP : Kept P) {es : List Edit} (h : r.edits es = .ok r') (place : Location)
    (hr : P (r.component place)) : P (r'.component place) :=
  edits_invariant (fun _ _ _ he => kept_edit hP he place) h hr

theorem kept_deltaFrom (base : Dict Value) : Kept fun c => c.DeltaFrom base where
  set _ _ _ := Component.deltaFrom_set
  remove _ _ := Component.deltaFrom_remove

theorem deltaFrom_edits {schema : Schema} {attrs : Dict Value} {es : List Edit}
    (h : (existing schema attrs).edits es = .ok r) :
    r.body.DeltaFrom (existing schema attrs).body.values :=
  kept_edits (kept_deltaFrom _) h .body (Component.deltaFrom_ofValues _)

end Resource

end ControlPlane
