import ControlPlane.Attribute.Component
import ControlPlane.Proofs.Data.Dict
import ControlPlane.Proofs.Data.Value

namespace ControlPlane.Component

variable {c : Component} {base : Dict Value} {key x : String} {value : Value}

theorem contains_dirty_insert {dirty : KeySet} :
    (dirty.insert key ()).contains x = true ↔ x = key ∨ dirty.contains x = true := by
  rw [Dict.contains_eq_isSome, Dict.contains_eq_isSome, Dict.get?_insert]
  by_cases h : key = x
  · simp [h]
  · simp [h, Ne.symm h]

theorem get?_set_of_ne (h : key ≠ x) : (c.set key value).get? x = c.get? x := by
  rw [set]
  split
  · rfl
  · rw [get?, Dict.get?_insert, if_neg h]
    rfl

theorem get?_remove_of_ne (h : key ≠ x) : (c.remove key).get? x = c.get? x := by
  rw [remove]
  split
  · rw [get?, Dict.get?_erase, if_neg h]
    rfl
  · rfl

theorem dirty_set_iff :
    (c.set key value).dirty.contains x = true ↔
      c.dirty.contains x = true ∨ (c.set key value).get? x ≠ c.get? x := by
  rw [set]
  split
  · simp
  · rename_i hsame
    have hget : (c.values.insert key value).get? x = if key = x then some value else c.get? x :=
      Dict.get?_insert
    rw [contains_dirty_insert, get?, hget]
    by_cases hx : key = x
    · subst hx
      have hne : c.get? key ≠ some value := fun he => hsame (by simp [he, Value.same_refl])
      simp [Ne.symm hne]
    · simp [hx, Ne.symm hx]

theorem dirty_remove_iff :
    (c.remove key).dirty.contains x = true ↔
      c.dirty.contains x = true ∨ (c.remove key).get? x ≠ c.get? x := by
  rw [remove]
  split
  · rename_i hpresent
    have hget : (c.values.erase key).get? x = if key = x then none else c.get? x := Dict.get?_erase
    rw [contains_dirty_insert, get?, hget]
    by_cases hx : key = x
    · subst hx
      have hne : c.get? key ≠ none := by
        rw [contains, Dict.contains_eq_isSome] at hpresent
        exact Option.isSome_iff_ne_none.mp hpresent
      simp [Ne.symm hne]
    · simp [hx, Ne.symm hx]
  · simp

def DeltaFrom (c : Component) (base : Dict Value) : Prop :=
  ∀ key, c.get? key ≠ base.get? key → c.dirty.contains key = true

theorem deltaFrom_ofValues (values : Dict Value) : (ofValues values true).DeltaFrom values :=
  fun _ h => absurd rfl h

theorem deltaFrom_change {c' : Component} (h : c.DeltaFrom base)
    (hdirty : ∀ x, c'.dirty.contains x = true ↔
      c.dirty.contains x = true ∨ c'.get? x ≠ c.get? x) : c'.DeltaFrom base := by
  intro x hx
  rw [hdirty]
  by_cases hsame : c'.get? x = c.get? x
  · exact .inl (h x (hsame ▸ hx))
  · exact .inr hsame

theorem deltaFrom_set (h : c.DeltaFrom base) : (c.set key value).DeltaFrom base :=
  deltaFrom_change h fun _ => dirty_set_iff

theorem deltaFrom_remove (h : c.DeltaFrom base) : (c.remove key).DeltaFrom base :=
  deltaFrom_change h fun _ => dirty_remove_iff

theorem get?_changes : c.changes.get? key =
    if c.dirty.contains key then some ((c.get? key).getD .null) else none := by
  rw [changes, Dict.get?_map, Dict.contains_eq_isSome]
  cases c.dirty.get? key <;> rfl

theorem mem_removedKeys :
    key ∈ c.removedKeys ↔ c.dirty.contains key = true ∧ c.get? key = none := by
  rw [removedKeys, List.mem_filter, Dict.mem_keys_iff]
  simp [contains, get?, Dict.contains_eq_isSome]

end ControlPlane.Component
