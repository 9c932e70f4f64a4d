import Mathlib
import ControlPlane.Proofs.Reference
import ControlPlane.Proofs.Resource.Synchronization

namespace ControlPlane

inductive Schema.Refuses (s : Schema) (name : String) (v : Value) : Error → Prop where
  | unknown : s.lookup? name = none →
      Refuses s name v (.invalidValue (s.kind ++ " has no attribute '" ++ name ++ "'"))
  | unfit {f : Field} {e : Error} : s.lookup? name = some f → f.write v = .error e → Refuses s name v e

def Schema.ReachesBefore (s : Schema) (attrs : Dict Value) (name : String)
    (place : Location × String) : Prop :=
  ∃ other, attrs.contains other = true ∧ other < name ∧ s.route other = place

namespace Resource

variable {r r' middle : Resource} {name : String} {v : Value} {e : Error} {attrs : Dict Value}
  {entries rest : List (String × Value)}

theorem set_eq_error_iff : r.set name v = .error e ↔ r.schema.Refuses name v e := by
  rw [set]
  constructor
  · intro h
    cases hf : r.schema.lookup? name with
    | none =>
        rw [hf] at h
        rw [← Except.error.inj h]
        exact .unknown hf
    | some f =>
        cases hw : f.write v with
        | ok w => simp [hf, hw] at h
        | error e' =>
            simp only [hf, hw] at h
            rw [← Except.error.inj h]
            exact .unfit hf hw
  · intro h
    cases h with
    | unknown hf =>
        rw [hf]
        rfl
    | unfit hf hw =>
        rw [hf]
        dsimp only
        rw [hw]

theorem assign_append (h : r.assign entries = (.ok (), middle)) :
    r.assign (entries ++ rest) = middle.assign rest := by
  induction entries generalizing r with
  | nil =>
      obtain rfl : r = middle := (Prod.mk.inj h).2
      rfl
  | cons entry entries ih =>
      obtain ⟨name, v⟩ := entry
      rw [assign] at h
      rw [List.cons_append, assign]
      cases hset : r.set name v with
      | error e => simp [hset] at h
      | ok next =>
          rw [hset] at h
          exact ih h

theorem assign_eq_error (h : r.assign entries = (.error e, r')) :
    ∃ earlier name v later, entries = earlier ++ (name, v) :: later ∧
      r.assign earlier = (.ok (), r') ∧ r'.set name v = .error e := by
  induction entries generalizing r with
  | nil => simp [assign] at h
  | cons entry rest ih =>
      obtain ⟨name, v⟩ := entry
      rw [assign] at h
      cases hset : r.set name v with
      | error e' =>
          simp only [hset, Prod.mk.injEq, Except.error.injEq] at h
          obtain ⟨rfl, rfl⟩ := h
          exact ⟨[], name, v, rest, rfl, rfl, hset⟩
      | ok next =>
          rw [hset] at h
          obtain ⟨earlier, refused, w, later, rfl, hassigned, hrefused⟩ := ih h
          refine ⟨(name, v) :: earlier, refused, w, later, rfl, ?_, hrefused⟩
          rw [assign, hset]
          exact hassigned

theorem not_refuses_of_assign (h : r.assign entries = (.ok (), r')) :
    ∀ entry ∈ entries, ¬r.schema.Refuses entry.1 entry.2 e := by
  induction entries generalizing r with
  | nil => simp
  | cons entry rest ih =>
      obtain ⟨name, v⟩ := entry
      rw [assign] at h
      cases hset : r.set name v with
      | error e' => simp [hset] at h
      | ok next =>
          rw [hset] at h
          -- later attributes are checked against the same table of fields
          have hschema : next.schema = r.schema := schema_edit (e := .set name v) hset
          rintro entry hmem hrefused
          rcases List.mem_cons.mp hmem with rfl | hmem
          · rw [set_eq_error_iff.mpr hrefused] at hset
            simp at hset
          · exact ih h entry hmem (hschema ▸ hrefused)

structure StopsAt (r : Resource) (attrs : Dict Value) (name : String) (e : Error) (r' : Resource) :
    Prop where
  refused : ∃ v, attrs.get? name = some v ∧ r.schema.Refuses name v e
  first : ∀ other w e', attrs.get? other = some w → other < name → ¬r.schema.Refuses other w e'
  assigned : r.update (attrs.filter fun other _ => decide (other < name)) = (.ok (), r')
  unchanged : (∀ other, attrs.contains other = true → ¬other < name) → r' = r
  schema : r'.schema = r.schema
  values : ∀ place, ¬r.schema.ReachesBefore attrs name place →
    (r'.component place.1).get? place.2 = (r.component place.1).get? place.2
  dirty : ∀ place, ¬r.schema.ReachesBefore attrs name place →
    (r'.isDirtyAt place.1 place.2 ↔ r.isDirtyAt place.1 place.2)
  sent : ∀ place q, ¬r.schema.ReachesBefore attrs name place → r'.plan .commit = .ok (some q) →
    r'.Carries q place.1 place.2 → r.isDirtyAt place.1 place.2

theorem stopsAt_of_assigned (hname : attrs.get? name = some v) (hrefused : r.schema.Refuses name v e)
    (hassigned : r.update (attrs.filter fun other _ => decide (other < name)) = (.ok (), r')) :
    r.StopsAt attrs name e r' := by
  have hedits := edits_of_update hassigned
  have hearlier : ∀ other,
      (attrs.filter fun other _ => decide (other < name)).contains other = true →
      attrs.contains other = true ∧ other < name := by
    intro other hother
    obtain ⟨w, hw, hlt⟩ := Dict.contains_filter_iff.mp hother
    exact ⟨Dict.contains_of_get? hw, of_decide_eq_true hlt⟩
  have helsewhere : ∀ place, ¬r.schema.ReachesBefore attrs name place →
      ∀ edit ∈ (attrs.filter fun other _ => decide (other < name)).entries.map
        fun entry => Edit.set entry.1 entry.2, r.schema.route edit.name ≠ place := by
    intro place hplace edit hedit
    refine name_of_mem_sets (P := fun other => r.schema.route other ≠ place) ?_ hedit
    intro other hother hroute
    obtain ⟨hmem, hlt⟩ := hearlier other hother
    exact hplace ⟨other, hmem, hlt, hroute⟩
  have hdirty : ∀ place, ¬r.schema.ReachesBefore attrs name place →
      (r'.isDirtyAt place.1 place.2 ↔ r.isDirtyAt place.1 place.2) := fun place hplace =>
    isDirtyAt_edits_elsewhere hedits (helsewhere place hplace)
  refine {
    refused := ⟨v, hname, hrefused⟩
    first := fun other w e' hw hlt => not_refuses_of_assign hassigned (other, w)
      (Dict.mem_entries_iff.mpr (Dict.get?_filter_eq_some_iff.mpr ⟨hw, decide_eq_true hlt⟩))
    assigned := hassigned
    unchanged := fun hfirst => ?_
    schema := schema_edits hedits
    values := fun place hplace => get?_edits_elsewhere hedits (helsewhere place hplace)
    dirty := hdirty
    sent := fun place q hplace hplan hcarries =>
      (hdirty place hplace).mp (isDirtyAt_of_carries (.inr rfl) hplan hcarries) }
  have hnone : attrs.filter (fun other _ => decide (other < name)) = .empty := by
    refine Dict.ext_get? fun other => Option.eq_none_iff_forall_ne_some.mpr fun w hw => ?_
    obtain ⟨hmem, hlt⟩ := hearlier other (Dict.contains_of_get? hw)
    exact hfirst other hmem hlt
  rw [hnone] at hassigned
  exact (Prod.mk.inj hassigned).2.symm

theorem update_eq_error_iff :
    r.update attrs = (.error e, r') ↔ ∃ name, r.StopsAt attrs name e r' := by
  constructor
  · intro h
    obtain ⟨earlier, name, v, later, hsplit, hassigned, hrefused⟩ := assign_eq_error h
    have hname : attrs.get? name = some v := Dict.mem_entries_iff.mp (by simp [hsplit])
    have hbefore : r.update (attrs.filter fun other _ => decide (other < name)) = (.ok (), r') := by
      rw [update, Dict.filter_before hsplit, hassigned]
    rw [set_eq_error_iff, schema_edits (assign_eq_ok hassigned)] at hrefused
    exact ⟨name, stopsAt_of_assigned hname hrefused hbefore⟩
  · rintro ⟨name, h⟩
    obtain ⟨v, hname, hrefused⟩ := h.refused
    obtain ⟨earlier, later, hsplit, -⟩ := Dict.entries_split (Dict.mem_entries_iff.mpr hname)
    have hassigned := h.assigned
    rw [update, Dict.filter_before hsplit] at hassigned
    rw [update, hsplit, assign_append hassigned, assign,
      set_eq_error_iff.mpr (h.schema ▸ hrefused)]

theorem update_eq_ok_iff : (∃ r', r.update attrs = (.ok (), r')) ↔
    ∀ name v e, attrs.get? name = some v → ¬r.schema.Refuses name v e := by
  constructor
  · rintro ⟨r', h⟩ name v e hv
    exact not_refuses_of_assign h (name, v) (Dict.mem_entries_iff.mpr hv)
  · intro hfit
    rcases h : r.update attrs with ⟨e | _, r'⟩
    · obtain ⟨name, hstops⟩ := update_eq_error_iff.mp h
      obtain ⟨v, hv, hrefused⟩ := hstops.refused
      exact absurd hrefused (hfit name v e hv)
    · exact ⟨r', rfl⟩

theorem update_stops_at_refused (r : Resource) (attrs : Dict Value) :
    (∀ e r', r.update attrs = (.error e, r') ↔ ∃ name, r.StopsAt attrs name e r') ∧
    ((∃ r', r.update attrs = (.ok (), r')) ↔
      ∀ name v e, attrs.get? name = some v → ¬r.schema.Refuses name v e) ∧
    ∀ e r', r.update attrs = (.error e, r') → ∀ (schema : Schema) (ref : Reference),
      ref.StandsFor schema r → ∀ (σ : Type) (s : Session σ) (c : Conversation σ),
      ref.update s schema attrs c = (.error e, c) := by
  refine ⟨fun e r' => update_eq_error_iff, update_eq_ok_iff, ?_⟩
  intro e r' h schema ref hstands σ s c
  have hresolve : ref.resolve schema attrs = .error e := by
    rw [Reference.resolve_of_standsFor hstands, h]
    rfl
  rw [Reference.update, Reference.withResource, hresolve]

def shelf : Schema :=
  { kind := "lab.shelf", service := "lab", basePath := "/shelves"
    fields := FieldTable.base ++ [{ name := "size", coercion := some .integer }] }

def oldShelf : Resource := existing shelf (.ofList [("id", .text "s1"), ("name", .text "old")])

def shelfLabels : Dict Value := .ofList [("name", .text "new"), ("size", .text "many")]

def labelledShelf : Resource :=
  { oldShelf with
    body :=
      { values := .ofList [("id", .text "s1"), ("name", .text "new")]
        dirty := .ofList [("name", ())] } }

def noInteger : Error := .invalidValue "cannot convert \"many\" to Integer"

theorem update_oldShelf : oldShelf.update shelfLabels = (.error noInteger, labelledShelf) := by
  cbv

theorem update_oldShelf_stops_at_size :
    (∃ name, oldShelf.StopsAt shelfLabels name noInteger labelledShelf) ∧
    (¬∀ name v e, shelfLabels.get? name = some v → ¬shelf.Refuses name v e) ∧
    ∀ c, (Reference.known oldShelf).update .replay shelf shelfLabels c = (.error noInteger, c) := by
  obtain ⟨hstops, hok, hsilent⟩ := update_stops_at_refused oldShelf shelfLabels
  refine ⟨(hstops _ _).mp update_oldShelf, fun hfit => ?_, ?_⟩
  · obtain ⟨r', h⟩ := hok.mpr hfit
    rw [update_oldShelf] at h
    simp at h
  · exact hsilent _ _ update_oldShelf shelf _ (.known oldShelf) _ .replay

def AllOrNothing (r : Resource) (attrs : Dict Value) : Prop :=
  ∀ e r', r.update attrs = (.error e, r') → ∀ location, r'.component location = r.component location

def shelfUpdate : Request :=
  { shelf.request .put "/shelves/s1" with body := some (.record [("name", .text "new")]) }

theorem update_keeps_earlier_attributes : ¬oldShelf.AllOrNothing shelfLabels ∧
    ∃ e r' q, oldShelf.update shelfLabels = (.error e, r') ∧ r'.plan .commit = .ok (some q) ∧
      r'.Carries q .body "name" ∧ ¬oldShelf.isDirtyAt .body "name" := by
  refine ⟨fun h => ?_, noInteger, labelledShelf, shelfUpdate, update_oldShelf, ?_, ?_, ?_⟩
  · have hbody := h _ _ update_oldShelf .body
    exact absurd (congrArg Component.isDirty hbody) (by decide +kernel)
  · cbv
  · exact ⟨_, rfl, by decide +kernel⟩
  · rw [isDirtyAt]
    decide +kernel

end Resource

end ControlPlane
