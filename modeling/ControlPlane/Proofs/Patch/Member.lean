import ControlPlane.Patch
import ControlPlane.Proofs.Data.Dict

namespace ControlPlane

namespace Dict

variable {α : Type}

def put (d : Dict α) (key : String) (value : Option α) : Dict α :=
  match value with
  | some v => d.insert key v
  | none => d.erase key

theorem get?_put {d : Dict α} {key x : String} {value : Option α} :
    (d.put key value).get? x = if key = x then value else d.get? x := by
  cases value with
  | none => exact get?_erase
  | some v => exact get?_insert

end Dict

namespace Value

theorem ofDict_injective {d e : Dict Value} (h : ofDict d = ofDict e) : d = e := by
  simp only [ofDict, Value.record.injEq] at h
  exact Dict.eq_of_entries h

variable {d : Dict Value} {key : String}

theorem addMember?_ofDict (value : Value) :
    addMember? value key (.ofDict d) = some (.ofDict (d.insert key value)) := by
  rw [ofDict, addMember?, Dict.ofList_entries]

theorem removeMember?_ofDict :
    removeMember? key (.ofDict d) = (d.get? key).map fun _ => .ofDict (d.erase key) := by
  simp only [ofDict, removeMember?, Dict.ofList_entries, Dict.contains_eq_isSome]
  cases d.get? key <;> rfl

theorem changeMember?_ofDict (change : Value → Option Value) :
    changeMember? change key (.ofDict d) =
      ((d.get? key).bind change).map fun value => .ofDict (d.insert key value) := by
  simp only [ofDict, changeMember?, Dict.ofList_entries]
  cases d.get? key with
  | none => rfl
  | some v =>
      change (change v).bind _ = (change v).map _
      cases change v <;> rfl

end Value

namespace PatchStep

def path : PatchStep → String
  | .add path _ => path
  | .remove path => path

def route? (step : PatchStep) : Option (String × List String) :=
  match Pointer.keys? step.path with
  | some (key :: rest) => some (key, rest)
  | _ => none

def member? (step : PatchStep) : Option String := step.route?.map (·.1)

def follow? : PatchStep → List String → Option Value → Option (Option Value)
  | .add _ value, [], _ => some (some value)
  | .add _ value, next :: rest, member => (member.bind (Value.addAt? value (next :: rest))).map some
  | .remove _, [], member => member.map fun _ => none
  | .remove _, next :: rest, member => (member.bind (Value.removeAt? (next :: rest))).map some

def change? (step : PatchStep) (member : Option Value) : Option (Option Value) :=
  step.route?.bind fun route => step.follow? route.2 member

variable {step : PatchStep} {d : Dict Value} {key : String}

theorem run?_of_keys {rest : List String} (h : Pointer.keys? step.path = some (key :: rest)) :
    step.run? (.ofDict d) =
      (step.follow? rest (d.get? key)).map fun value => .ofDict (d.put key value) := by
  cases step with
  | add path value =>
      change Pointer.keys? path = _ at h
      rw [run?, h, Option.bind_some]
      cases rest with
      | nil => rw [Value.addAt?, Value.addMember?_ofDict]; rfl
      | cons next rest =>
          rw [Value.addAt?, Value.changeMember?_ofDict, follow?, Option.map_map]
          · rfl
          · simp
  | remove path =>
      change Pointer.keys? path = _ at h
      rw [run?, h, Option.bind_some]
      cases rest with
      | nil => rw [Value.removeAt?, Value.removeMember?_ofDict, follow?, Option.map_map]; rfl
      | cons next rest =>
          rw [Value.removeAt?, Value.changeMember?_ofDict, follow?, Option.map_map]
          · rfl
          · simp

theorem run?_of_member (h : step.member? = some key) :
    step.run? (.ofDict d) =
      (step.change? (d.get? key)).map fun value => .ofDict (d.put key value) := by
  rw [member?, Option.map_eq_some_iff] at h
  obtain ⟨⟨key', rest⟩, hr, rfl⟩ := h
  rw [change?, hr, Option.bind_some]
  apply run?_of_keys
  rw [route?] at hr
  split at hr
  · simp only [Option.some.injEq, Prod.mk.injEq] at hr
    rw [← hr.1, ← hr.2]
    assumption
  · simp at hr

def Inner (step : PatchStep) : Prop := Pointer.keys? step.path ≠ some []

theorem member?_of_run? (hi : step.Inner) {v w : Value} (h : step.run? v = some w) :
    ∃ key, step.member? = some key := by
  have hkeys : ∃ keys, Pointer.keys? step.path = some keys := by
    cases step <;>
      · rw [run?, Option.bind_eq_some_iff] at h
        obtain ⟨keys, hk, -⟩ := h
        exact ⟨keys, hk⟩
  obtain ⟨keys, hk⟩ := hkeys
  cases keys with
  | nil => exact absurd hk hi
  | cons key rest => exact ⟨key, by rw [member?, route?, hk]; rfl⟩

end PatchStep

def trace? (key : String) : List PatchStep → Option Value → Option (Option Value)
  | [], member => some member
  | step :: rest, member =>
      if step.member? = some key then (step.change? member).bind (trace? key rest)
      else trace? key rest member

variable {steps : List PatchStep}

theorem applyPatch?_cons (step : PatchStep) (rest : List PatchStep) (v : Value) :
    applyPatch? (step :: rest) v = (step.run? v).bind (applyPatch? rest) := by
  rw [applyPatch?, List.foldlM_cons]
  rfl

theorem trace?_of_applyPatch? (hi : ∀ step ∈ steps, step.Inner) :
    ∀ {d : Dict Value} {v : Value}, applyPatch? steps (.ofDict d) = some v →
      (∀ step ∈ steps, step.member? ≠ none) ∧
      ∃ d', v = .ofDict d' ∧ ∀ key, trace? key steps (d.get? key) = some (d'.get? key) := by
  induction steps with
  | nil =>
      intro d v h
      refine ⟨by simp, d, ?_, fun key => rfl⟩
      simpa [applyPatch?] using h.symm
  | cons step rest ih =>
      intro d v h
      rw [applyPatch?_cons, Option.bind_eq_some_iff] at h
      obtain ⟨w, hstep, hrest⟩ := h
      obtain ⟨key, hkey⟩ := PatchStep.member?_of_run? (hi step (List.mem_cons_self ..)) hstep
      rw [PatchStep.run?_of_member hkey, Option.map_eq_some_iff] at hstep
      obtain ⟨value, hchange, rfl⟩ := hstep
      obtain ⟨hmembers, d', hv, htrace⟩ := ih (fun s hs => hi s (List.mem_cons_of_mem _ hs)) hrest
      refine ⟨?_, d', hv, fun x => ?_⟩
      · intro s hs
        rcases List.mem_cons.mp hs with rfl | hs
        · rw [hkey]
          simp
        · exact hmembers s hs
      · rw [trace?, hkey, ← htrace x, Dict.get?_put]
        by_cases hx : key = x
        · subst hx
          rw [if_pos rfl, if_pos rfl, hchange, Option.bind_some]
        · rw [if_neg (by simpa using hx), if_neg hx]

theorem applyPatch?_of_trace? :
    ∀ {d : Dict Value}, (∀ step ∈ steps, step.member? ≠ none) →
      (∀ key, trace? key steps (d.get? key) ≠ none) →
      ∃ v, applyPatch? steps (.ofDict d) = some v := by
  induction steps with
  | nil =>
      intro d _ _
      exact ⟨.ofDict d, rfl⟩
  | cons step rest ih =>
      intro d hmembers htrace
      obtain ⟨key, hkey⟩ :=
        Option.ne_none_iff_exists'.mp (hmembers step (List.mem_cons_self ..))
      have hhere := htrace key
      rw [trace?, if_pos hkey] at hhere
      cases hchange : step.change? (d.get? key) with
      | none => simp [hchange] at hhere
      | some value =>
          rw [applyPatch?_cons, PatchStep.run?_of_member hkey, hchange]
          refine ih (fun s hs => hmembers s (List.mem_cons_of_mem _ hs)) fun x => ?_
          rw [Dict.get?_put]
          by_cases hx : key = x
          · subst hx
            rw [hchange, Option.bind_some] at hhere
            rwa [if_pos rfl]
          · have hthere := htrace x
            rw [trace?, if_neg (by rw [hkey]; simpa using hx)] at hthere
            rwa [if_neg hx]

end ControlPlane
