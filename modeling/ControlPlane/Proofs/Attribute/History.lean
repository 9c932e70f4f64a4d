import ControlPlane.Proofs.Attribute.Delta

namespace ControlPlane.Component

inductive Step where
  | set (key : String) (value : Value)
  | remove (key : String)
  | clean
  | merge (values : Dict Value)
  deriving DecidableEq, Repr

def step (c : Component) : Step → Component
  | .set key value => c.set key value
  | .remove key => c.remove key
  | .clean => c.clean
  | .merge values => c.merge values

structure History where
  current : Component
  synced : Dict Value
  touched : List String

namespace History

def start (values : Dict Value) (synchronized : Bool) : History :=
  { current := .ofValues values synchronized
    synced := if synchronized then values else .empty
    touched := if synchronized then [] else values.keys }

def next (h : History) (s : Step) : History :=
  let current := h.current.step s
  match s with
  | .set key _ | .remove key => { h with current := current, touched := key :: h.touched }
  | .clean | .merge _ => { current := current, synced := current.values, touched := [] }

def run (h : History) (steps : List Step) : History := steps.foldl next h

theorem current_run (h : History) (steps : List Step) :
    (h.run steps).current = steps.foldl step h.current := by
  induction steps generalizing h with
  | nil => rfl
  | cons s rest ih =>
      have hs : (h.next s).current = h.current.step s := by cases s <;> rfl
      change ((h.next s).run rest).current = rest.foldl step (h.current.step s)
      rw [ih, hs]

structure Tracked (h : History) : Prop where
  covered : h.current.DeltaFrom h.synced
  caused : ∀ key, h.current.dirty.contains key = true → key ∈ h.touched

end History

variable {c : Component} {base : Dict Value} {key x : String} {value : Value}

theorem contains_markAll {values : Dict Value} :
    (markAll values).contains key = values.contains key := by
  rw [markAll, Dict.contains_eq_isSome, Dict.contains_eq_isSome, Dict.get?_map]
  cases values.get? key <;> rfl

namespace History

theorem tracked_start (values : Dict Value) (synchronized : Bool) :
    (start values synchronized).Tracked := by
  cases synchronized with
  | true => exact ⟨deltaFrom_ofValues values, fun key h => absurd h Bool.false_ne_true⟩
  | false =>
      refine ⟨fun key h => ?_, fun key h => ?_⟩
      · have hpresent : values.get? key ≠ none := h
        change (markAll values).contains key = true
        rw [contains_markAll, Dict.contains_eq_isSome]
        exact Option.isSome_iff_ne_none.mpr hpresent
      · change (markAll values).contains key = true at h
        rw [contains_markAll] at h
        exact Dict.mem_keys_iff.mpr h

theorem tracked_next {h : History} (ht : h.Tracked) (s : Step) : (h.next s).Tracked := by
  cases s with
  | set key value =>
      refine ⟨deltaFrom_set ht.covered, fun x hx => ?_⟩
      rcases dirty_set_iff.mp hx with hx | hne
      · exact List.mem_cons_of_mem _ (ht.caused x hx)
      · obtain rfl : key = x := Classical.byContradiction fun h => hne (get?_set_of_ne h)
        exact List.mem_cons_self ..
  | remove key =>
      refine ⟨deltaFrom_remove ht.covered, fun x hx => ?_⟩
      rcases dirty_remove_iff.mp hx with hx | hne
      · exact List.mem_cons_of_mem _ (ht.caused x hx)
      · obtain rfl : key = x := Classical.byContradiction fun h => hne (get?_remove_of_ne h)
        exact List.mem_cons_self ..
  | clean => exact ⟨fun _ h => absurd rfl h, fun _ h => absurd h Bool.false_ne_true⟩
  | merge values => exact ⟨fun _ h => absurd rfl h, fun _ h => absurd h Bool.false_ne_true⟩

theorem tracked_run {h : History} (ht : h.Tracked) (steps : List Step) : (h.run steps).Tracked := by
  induction steps generalizing h with
  | nil => exact ht
  | cons s rest ih => exact ih (tracked_next ht s)

end History

structure FaithfulTo (c : Component) (base : Dict Value) (touched : List String) : Prop where
  covered : ∀ key, c.get? key ≠ base.get? key → c.dirty.contains key = true
  caused : ∀ key, c.dirty.contains key = true → key ∈ touched
  changed : c.changes.keys = c.dirty.keys
  removed : ∀ key, key ∈ c.removedKeys ↔ c.dirty.contains key = true ∧ c.get? key = none
  removedOnce : c.removedKeys.Pairwise (· < ·)
  rebuilt : c.removedKeys.foldl Dict.erase (base.overlay c.changes) = c.values

theorem rebuild_values (hd : c.DeltaFrom base) :
    c.removedKeys.foldl Dict.erase (base.overlay c.changes) = c.values := by
  apply Dict.ext_get?
  intro key
  change _ = c.get? key
  rw [Dict.get?_foldl_erase, Dict.get?_overlay, get?_changes]
  simp only [mem_removedKeys]
  by_cases hdirty : c.dirty.contains key = true
  · cases hcur : c.get? key with
    | none => simp [hdirty]
    | some v => simp [hdirty]
  · have hsame : c.get? key = base.get? key :=
      Classical.byContradiction fun hne => hdirty (hd key hne)
    simp [hdirty, hsame]

theorem run_faithful (values : Dict Value) (synchronized : Bool) (steps : List Step) :
    let h := (History.start values synchronized).run steps
    h.current = steps.foldl step (ofValues values synchronized) ∧
      h.current.FaithfulTo h.synced h.touched := by
  intro h
  have ht : h.Tracked := History.tracked_run (History.tracked_start values synchronized) steps
  refine ⟨History.current_run _ steps, ?_⟩
  exact
    { covered := ht.covered
      caused := ht.caused
      changed := Dict.keys_map _
      removed := fun _ => mem_removedKeys
      removedOnce := Dict.keys_ordered.filter _
      rebuilt := rebuild_values ht.covered }

end ControlPlane.Component
