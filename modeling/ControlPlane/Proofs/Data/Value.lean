import ControlPlane.Data.Value

namespace ControlPlane

theorem Double.same_refl (x : Double) : x.same x = true := by
  simp [Double.same]

theorem Double.same_trans {x y z : Double} (h : x.same y = true) (h' : y.same z = true) :
    x.same z = true := by
  simp only [Double.same, Bool.or_eq_true, beq_iff_eq, Bool.and_eq_true] at h h' ⊢
  rcases h with rfl | ⟨hx, hy⟩
  · exact h'
  · rcases h' with rfl | ⟨-, hz⟩
    · exact .inr ⟨hx, hy⟩
    · exact .inr ⟨hx, hz⟩

namespace Value

theorem isNull_eq_false_iff {v : Value} : v.isNull = false ↔ v ≠ .null := by
  cases v <;> simp [isNull]

theorem eq_text_of_same {v : Value} {text : String} (h : v.same (.text text) = true) :
    v = .text text := by
  cases v <;> simp [same] at h ⊢
  exact h

mutual

theorem same_refl : ∀ v : Value, v.same v = true
  | .null => rfl
  | .bool b => by simp [same]
  | .integer n => by simp [same]
  | .float x => Double.same_refl x
  | .text s => by simp [same]
  | .list items => sameItems_refl items
  | .record entries => sameEntries_refl entries

theorem sameItems_refl : ∀ items : List Value, sameItems items items = true
  | [] => rfl
  | v :: rest => by rw [sameItems, same_refl v, sameItems_refl rest]; rfl

theorem sameEntries_refl : ∀ entries : List (String × Value), sameEntries entries entries = true
  | [] => rfl
  | (key, v) :: rest => by simp [sameEntries, same_refl v, sameEntries_refl rest]

end

mutual

theorem same_trans {b c : Value} : ∀ a : Value, a.same b = true → b.same c = true → a.same c = true
  | .null, h, h' => by cases b <;> simp [same] at h; exact h'
  | .bool _, h, h' => by cases b <;> simp [same] at h; exact h ▸ h'
  | .integer _, h, h' => by cases b <;> simp [same] at h; exact h ▸ h'
  | .text _, h, h' => by cases b <;> simp [same] at h; exact h ▸ h'
  | .float _, h, h' => by
      cases b <;> simp [same] at h
      cases c <;> simp [same] at h'
      exact Double.same_trans h h'
  | .list items, h, h' => by
      cases b <;> simp [same] at h
      cases c <;> simp [same] at h'
      exact sameItems_trans items h h'
  | .record entries, h, h' => by
      cases b <;> simp [same] at h
      cases c <;> simp [same] at h'
      exact sameEntries_trans entries h h'

theorem sameItems_trans {bs cs : List Value} : ∀ items : List Value, sameItems items bs = true →
    sameItems bs cs = true → sameItems items cs = true
  | [], h, h' => by cases bs <;> simp [sameItems] at h; exact h'
  | a :: as, h, h' => by
      cases bs <;> simp [sameItems] at h
      cases cs <;> simp [sameItems] at h'
      simp [sameItems, same_trans a h.1 h'.1, sameItems_trans as h.2 h'.2]

theorem sameEntries_trans {bs cs : List (String × Value)} : ∀ entries : List (String × Value),
    sameEntries entries bs = true → sameEntries bs cs = true → sameEntries entries cs = true
  | [], h, h' => by cases bs <;> simp [sameEntries] at h; exact h'
  | (k, a) :: as, h, h' => by
      cases bs <;> simp [sameEntries] at h
      cases cs <;> simp [sameEntries] at h'
      simp [sameEntries, h.1.1.trans h'.1.1, same_trans a h.1.2 h'.1.2,
        sameEntries_trans as h.2 h'.2]

end

end Value

end ControlPlane
