import ControlPlane.Attribute.Path

namespace ControlPlane

theorem Value.plainText?_eq_none_iff {v : Value} : v.plainText? = none ↔ v = .null := by
  cases v <;> simp [Value.plainText?]

def PathPiece.spell (fill : String → String) : PathPiece → List Char
  | .literal text => text
  | .slot name => (Text.percentEncode (fill name)).toList

namespace Schema

variable {s : Schema} {values : Dict Value}

def Fills (s : Schema) (values : Dict Value) (name : String) : Prop :=
  ∃ v, values.get? (s.slotKey name) = some v ∧ v ≠ .null

def unfilled (s : Schema) (name : String) : Error :=
  .invalidRequest (s.kind ++ " requires '" ++ name ++ "' to build its path")

def slots (s : Schema) : List String :=
  (pathPieces none s.basePath.toList).filterMap fun
    | .slot name => some name
    | .literal _ => none

def slotText (s : Schema) (values : Dict Value) (name : String) : String :=
  ((values.get? (s.slotKey name)).bind Value.plainText?).getD ""

def pathWith (s : Schema) (fill : String → String) : String :=
  String.ofList ((pathPieces none s.basePath.toList).flatMap (PathPiece.spell fill))

theorem fills_iff {name : String} :
    s.Fills values name ↔ ∃ text, (values.get? (s.slotKey name)).bind Value.plainText? = some text := by
  constructor
  · rintro ⟨v, hv, hn⟩
    cases ht : v.plainText? with
    | none => exact absurd (Value.plainText?_eq_none_iff.mp ht) hn
    | some text => exact ⟨text, by rw [hv, Option.bind_some, ht]⟩
  · rintro ⟨text, h⟩
    obtain ⟨v, hv, ht⟩ := Option.bind_eq_some_iff.mp h
    refine ⟨v, hv, fun hn => ?_⟩
    rw [Value.plainText?_eq_none_iff.mpr hn] at ht
    exact absurd ht (by simp)

theorem fillPiece_slot_of_fills {name : String} (h : s.Fills values name) :
    ∃ text, s.fillPiece values (.slot name) = .ok text := by
  obtain ⟨text, ht⟩ := fills_iff.mp h
  exact ⟨_, by rw [fillPiece, ht]⟩

theorem fillPiece_slot_of_not_fills {name : String} (h : ¬s.Fills values name) :
    s.fillPiece values (.slot name) = .error (s.unfilled name) := by
  have hn : (values.get? (s.slotKey name)).bind Value.plainText? = none :=
    Option.eq_none_iff_forall_ne_some.mpr fun text ht => h (fills_iff.mpr ⟨text, ht⟩)
  rw [fillPiece, hn]
  rfl

theorem fillPiece_error {piece : PathPiece} {e : Error} (h : s.fillPiece values piece = .error e) :
    ∃ name, piece = .slot name ∧ ¬s.Fills values name ∧ e = s.unfilled name := by
  cases piece with
  | literal text => simp [fillPiece] at h
  | slot name =>
      by_cases hf : s.Fills values name
      · obtain ⟨text, ht⟩ := fillPiece_slot_of_fills hf
        simp [ht] at h
      · rw [fillPiece_slot_of_not_fills hf, Except.error.injEq] at h
        exact ⟨name, rfl, hf, h.symm⟩

theorem fillPiece_eq_ok {piece : PathPiece} {text : List Char}
    (h : s.fillPiece values piece = .ok text) : text = piece.spell (s.slotText values) := by
  cases piece with
  | literal t => simpa [fillPiece, PathPiece.spell, eq_comm] using h
  | slot name =>
      rw [fillPiece] at h
      cases ht : (values.get? (s.slotKey name)).bind Value.plainText? with
      | none => simp [ht] at h
      | some t =>
          simp only [ht, Except.ok.injEq] at h
          rw [PathPiece.spell, slotText, ht, Option.getD_some, h]

theorem fillPieces_of_fills {pieces : List PathPiece}
    (h : ∀ name, .slot name ∈ pieces → s.Fills values name) :
    ∃ text, s.fillPieces values pieces = .ok text := by
  induction pieces with
  | nil => exact ⟨[], rfl⟩
  | cons piece rest ih =>
      obtain ⟨others, hrest⟩ := ih fun name hn => h name (List.mem_cons_of_mem _ hn)
      cases hp : s.fillPiece values piece with
      | ok text => exact ⟨text ++ others, by rw [fillPieces, hp, hrest]; rfl⟩
      | error e =>
          obtain ⟨name, rfl, hn, -⟩ := fillPiece_error hp
          exact absurd (h name (List.mem_cons_self ..)) hn

theorem fills_of_fillPieces {pieces : List PathPiece} {text : List Char}
    (h : s.fillPieces values pieces = .ok text) {name : String} (hm : .slot name ∈ pieces) :
    s.Fills values name := by
  induction pieces generalizing text with
  | nil => simp at hm
  | cons piece rest ih =>
      rw [fillPieces] at h
      cases hp : s.fillPiece values piece with
      | error e => simp [hp] at h
      | ok first =>
          cases hr : s.fillPieces values rest with
          | error e => simp [hp, hr, Except.map] at h
          | ok others =>
              rcases List.mem_cons.mp hm with rfl | hm
              · -- an empty slot would have stopped the filling
                apply Classical.byContradiction
                intro hf
                rw [fillPiece_slot_of_not_fills hf] at hp
                simp at hp
              · exact ih hr hm

theorem fillPieces_error {pieces : List PathPiece} {e : Error}
    (h : s.fillPieces values pieces = .error e) :
    ∃ name, .slot name ∈ pieces ∧ ¬s.Fills values name ∧ e = s.unfilled name := by
  induction pieces with
  | nil => simp [fillPieces] at h
  | cons piece rest ih =>
      rw [fillPieces] at h
      cases hp : s.fillPiece values piece with
      | ok text =>
          cases hr : s.fillPieces values rest with
          | ok others => simp [hp, hr, Except.map] at h
          | error e' =>
              simp only [hp, hr, Except.map, Except.error.injEq] at h
              obtain ⟨name, hm, hn, he⟩ := ih (h ▸ hr)
              exact ⟨name, List.mem_cons_of_mem _ hm, hn, he⟩
      | error e' =>
          simp only [hp, Except.error.injEq] at h
          obtain ⟨name, rfl, hn, he⟩ := fillPiece_error hp
          exact ⟨name, List.mem_cons_self .., hn, h ▸ he⟩

theorem fillPieces_eq_ok {pieces : List PathPiece} {text : List Char}
    (h : s.fillPieces values pieces = .ok text) :
    text = pieces.flatMap (PathPiece.spell (s.slotText values)) := by
  induction pieces generalizing text with
  | nil => simpa [fillPieces, eq_comm] using h
  | cons piece rest ih =>
      rw [fillPieces] at h
      cases hp : s.fillPiece values piece with
      | error e => simp [hp] at h
      | ok first =>
          cases hr : s.fillPieces values rest with
          | error e => simp [hp, hr, Except.map] at h
          | ok others =>
              simp only [hp, hr, Except.map, Except.ok.injEq] at h
              rw [List.flatMap_cons, ← ih hr, ← fillPiece_eq_ok hp, h]

theorem mem_slots {name : String} :
    name ∈ s.slots ↔ .slot name ∈ pathPieces none s.basePath.toList := by
  rw [slots, List.mem_filterMap]
  constructor
  · rintro ⟨piece, hm, h⟩
    cases piece with
    | literal text => simp at h
    | slot n =>
        simp only [Option.some.injEq] at h
        exact h ▸ hm
  · intro h
    exact ⟨.slot name, h, rfl⟩

theorem collectionPath_of_fills (h : ∀ name ∈ s.slots, s.Fills values name) :
    ∃ path, s.collectionPath values = .ok path := by
  obtain ⟨text, ht⟩ : ∃ text, s.fillPieces values (pathPieces none s.basePath.toList) = .ok text :=
    fillPieces_of_fills fun name hn => h name (mem_slots.mpr hn)
  exact ⟨String.ofList text, by rw [collectionPath, ht]; rfl⟩

theorem collectionPath_eq_ok {path : String} (h : s.collectionPath values = .ok path) :
    path = s.pathWith (s.slotText values) := by
  cases ht : s.fillPieces values (pathPieces none s.basePath.toList) with
  | error e => simp [collectionPath, ht, Except.map] at h
  | ok text =>
      simp only [collectionPath, ht, Except.map, Except.ok.injEq] at h
      rw [← h, pathWith, ← fillPieces_eq_ok ht]

theorem text_of_fills {name : String} (h : s.Fills values name) :
    (values.get? (s.slotKey name)).bind Value.plainText? = some (s.slotText values name) := by
  obtain ⟨text, ht⟩ := fills_iff.mp h
  rw [slotText, ht, Option.getD_some]

theorem collectionPath_of_not_fills (h : ¬∀ name ∈ s.slots, s.Fills values name) :
    ∃ name ∈ s.slots, ¬s.Fills values name ∧
      s.collectionPath values = .error (s.unfilled name) := by
  cases hp : s.fillPieces values (pathPieces none s.basePath.toList) with
  | error e =>
      obtain ⟨name, hm, hn, rfl⟩ := fillPieces_error hp
      exact ⟨name, mem_slots.mpr hm, hn, by rw [collectionPath, hp]; rfl⟩
  | ok text => exact absurd (fun name hn => fills_of_fillPieces hp (mem_slots.mp hn)) h

theorem fills_of_collectionPath {path name : String} (h : s.collectionPath values = .ok path)
    (hm : name ∈ s.slots) : s.Fills values name := by
  apply Classical.byContradiction
  intro hn
  obtain ⟨other, -, -, he⟩ := collectionPath_of_not_fills fun hall => hn (hall name hm)
  rw [h] at he
  simp at he

end Schema

end ControlPlane
