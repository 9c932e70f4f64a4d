import ControlPlane.Proofs.Patch.Member

namespace ControlPlane

theorem PatchStep.toValue_injective {step other : PatchStep} (h : step.toValue = other.toValue) :
    step = other := by
  cases step <;> cases other <;>
    simp only [toValue, Value.record.injEq, List.cons.injEq, Prod.mk.injEq, Value.text.injEq] at h
  · rw [h.2.1.2, h.2.2.1.2]
  · exact absurd h.1.2 (by decide)
  · exact absurd h.1.2 (by decide)
  · rw [h.2.1.2]

theorem patchValue_injective {steps others : List PatchStep}
    (h : patchValue steps = patchValue others) : steps = others := by
  simp only [patchValue, Value.list.injEq] at h
  exact (List.map_inj_right fun _ _ => PatchStep.toValue_injective).mp h

def Describes (document : Value) (before after : Dict Value) (aside : String) : Prop :=
  ∃ steps result, document = patchValue steps ∧
    applyPatch? steps (.ofDict before) = some (.ofDict result) ∧
    ∀ key, key ≠ aside → result.get? key = after.get? key

variable {steps : List PatchStep} {before after : Dict Value} {aside key : String}

theorem describes_iff (hi : ∀ step ∈ steps, step.Inner) :
    Describes (patchValue steps) before after aside ↔
      (∀ step ∈ steps, step.member? ≠ none) ∧
      ∀ key, ∃ value, trace? key steps (before.get? key) = some value ∧
        (key ≠ aside → value = after.get? key) := by
  constructor
  · rintro ⟨others, result, hd, happly, hresult⟩
    obtain rfl := patchValue_injective hd
    obtain ⟨hmembers, d, hd, htrace⟩ := trace?_of_applyPatch? hi happly
    obtain rfl := Value.ofDict_injective hd
    exact ⟨hmembers, fun key => ⟨result.get? key, htrace key, hresult key⟩⟩
  · rintro ⟨hmembers, htrace⟩
    have hsome : ∀ key, trace? key steps (before.get? key) ≠ none := by
      intro key
      obtain ⟨value, hv, -⟩ := htrace key
      rw [hv]
      simp
    obtain ⟨v, happly⟩ := applyPatch?_of_trace? hmembers hsome
    obtain ⟨-, result, rfl, hresult⟩ := trace?_of_applyPatch? hi happly
    refine ⟨steps, result, rfl, happly, fun key hkey => ?_⟩
    obtain ⟨value, hv, hafter⟩ := htrace key
    rw [hresult key, Option.some.injEq] at hv
    rw [hv, hafter hkey]

theorem not_describes_of_none (h : applyPatch? steps (.ofDict before) = none) :
    ¬Describes (patchValue steps) before after aside := by
  rintro ⟨others, result, hd, happly, -⟩
  obtain rfl := patchValue_injective hd
  rw [h] at happly
  simp at happly

theorem trace?_of_others {value : Option Value} (h : ∀ step ∈ steps, step.member? ≠ some key) :
    trace? key steps value = some value := by
  induction steps with
  | nil => rfl
  | cons step rest ih =>
      rw [trace?, if_neg (h step (List.mem_cons_self ..))]
      exact ih fun s hs => h s (List.mem_cons_of_mem _ hs)

theorem trace?_append {earlier later : List PatchStep} {value : Option Value} :
    trace? key (earlier ++ later) value = (trace? key earlier value).bind (trace? key later) := by
  induction earlier generalizing value with
  | nil => rfl
  | cons step rest ih =>
      rw [List.cons_append, trace?, trace?]
      split
      · cases step.change? value with
        | none => rfl
        | some changed => exact ih
      · exact ih

theorem trace?_of_one {earlier later : List PatchStep} {step : PatchStep} {value : Option Value}
    (he : ∀ s ∈ earlier, s.member? ≠ some key) (hs : step.member? = some key)
    (hl : ∀ s ∈ later, s.member? ≠ some key) :
    trace? key (earlier ++ step :: later) value = step.change? value := by
  rw [trace?_append, trace?_of_others he, Option.bind_some, trace?, if_pos hs]
  cases step.change? value with
  | none => rfl
  | some changed => exact trace?_of_others hl

end ControlPlane
