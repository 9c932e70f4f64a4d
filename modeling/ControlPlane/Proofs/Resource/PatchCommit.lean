import Mathlib
import ControlPlane.Proofs.Patch.Document
import ControlPlane.Proofs.Patch.Pointer
import ControlPlane.Proofs.Resource.Edit
import ControlPlane.Proofs.Resource.Update

namespace ControlPlane.Resource

variable {r : Resource} {base : Dict Value} {key : String}

section

variable {removed : List String} {change : String × Value}

theorem patchStep_path : (patchStep removed change).path = "/" ++ change.1 := by
  rw [patchStep]
  split <;> rfl

theorem patchStep_inner : (patchStep removed change).Inner := by
  rw [PatchStep.Inner, patchStep_path]
  exact Pointer.keys?_slash_ne_nil change.1

theorem patchStep_route_of_plain (h : Pointer.Plain change.1) :
    (patchStep removed change).route? = some (change.1, []) := by
  rw [PatchStep.route?, patchStep_path, Pointer.keys?_of_plain h]

theorem patchStep_member_of_plain (h : Pointer.Plain change.1) :
    (patchStep removed change).member? = some change.1 := by
  rw [PatchStep.member?, patchStep_route_of_plain h]
  rfl

theorem patchStep_change_of_plain (h : Pointer.Plain change.1) (value : Option Value) :
    (patchStep removed change).change? value =
      if change.1 ∈ removed then value.map fun _ => none else some (some change.2) := by
  rw [PatchStep.change?, patchStep_route_of_plain h, Option.bind_some, patchStep]
  by_cases hr : change.1 ∈ removed
  · simp [hr, PatchStep.follow?]
  · simp [hr, PatchStep.follow?]

theorem patchStep_member_length (h : ¬Pointer.Plain change.1)
    (hm : (patchStep removed change).member? = some key) :
    key.toList.length < change.1.toList.length := by
  rw [PatchStep.member?, PatchStep.route?, patchStep_path] at hm
  split at hm
  · rename_i first rest hkeys
    simp only [Option.map_some, Option.some.injEq] at hm
    subst hm
    exact Pointer.keys?_first_length hkeys h
  · simp at hm

end

theorem mem_patchSteps {step : PatchStep} : step ∈ r.patchSteps ↔
    ∃ change ∈ r.updates.entries, patchStep r.body.removedKeys change = step :=
  List.mem_map

theorem patchSteps_inner : ∀ step ∈ r.patchSteps, step.Inner := by
  intro step hs
  obtain ⟨change, -, rfl⟩ := mem_patchSteps.mp hs
  exact patchStep_inner

theorem describes_patchSteps_iff :
    Describes (patchValue r.patchSteps) base r.body.values r.idKey ↔
      (∀ step ∈ r.patchSteps, step.member? ≠ none) ∧
      ∀ key, ∃ value, trace? key r.patchSteps (base.get? key) = some value ∧
        (key ≠ r.idKey → value = r.body.get? key) :=
  describes_iff patchSteps_inner

section

variable (hplain : ∀ key, r.Updates key → Pointer.Plain key)

include hplain

theorem patchSteps_member {change : String × Value} (hc : change ∈ r.updates.entries) :
    (patchStep r.body.removedKeys change).member? = some change.1 :=
  patchStep_member_of_plain (hplain change.1 (updates_iff.mpr ⟨change.2, hc⟩))

theorem trace?_of_not_updates (hu : ¬r.Updates key) (value : Option Value) :
    trace? key r.patchSteps value = some value := by
  refine trace?_of_others fun step hs hm => ?_
  obtain ⟨change, hc, rfl⟩ := mem_patchSteps.mp hs
  rw [patchSteps_member hplain hc, Option.some.injEq] at hm
  exact hu (updates_iff.mpr ⟨change.2, hm ▸ hc⟩)

theorem trace?_of_updates (hu : r.Updates key) (value : Option Value) :
    trace? key r.patchSteps value =
      match r.body.get? key with
      | none => value.map fun _ => none
      | some new => some (some new) := by
  obtain ⟨new, hm⟩ := updates_iff.mp hu
  obtain ⟨earlier, later, hsplit, hearlier, hlater⟩ := Dict.entries_split hm
  have hother : ∀ change ∈ r.updates.entries, change.1 ≠ key →
      (patchStep r.body.removedKeys change).member? ≠ some key := by
    intro change hc hne
    rw [patchSteps_member hplain hc]
    simpa using hne
  rw [patchSteps, hsplit, List.map_append, List.map_cons, trace?_of_one]
  · have hnew := Dict.mem_entries_iff.mp hm
    rw [get?_updates, if_neg hu.2, if_pos hu.1, Option.some.injEq] at hnew
    rw [patchStep_change_of_plain (hplain key hu), ← hnew]
    simp only [Component.mem_removedKeys]
    cases r.body.get? key <;> simp [hu.1]
  · intro step hs
    obtain ⟨change, hc, rfl⟩ := List.mem_map.mp hs
    exact hother change (by rw [hsplit]; simp [hc]) (hearlier change hc)
  · exact patchSteps_member hplain hm
  · intro step hs
    obtain ⟨change, hc, rfl⟩ := List.mem_map.mp hs
    exact hother change (by rw [hsplit]; simp [hc]) (hlater change hc)

theorem describes_iff_of_plain (hd : r.body.DeltaFrom base) :
    Describes (patchValue r.patchSteps) base r.body.values r.idKey ↔
      ∀ key, r.Updates key → r.body.get? key = none → base.get? key ≠ none := by
  rw [describes_patchSteps_iff]
  constructor
  · rintro ⟨-, htrace⟩ key hu hnone habsent
    obtain ⟨value, hv, -⟩ := htrace key
    rw [trace?_of_updates hplain hu, hnone, habsent] at hv
    simp at hv
  · intro hpresent
    refine ⟨fun step hs => ?_, fun key => ?_⟩
    · obtain ⟨change, hc, rfl⟩ := mem_patchSteps.mp hs
      rw [patchSteps_member hplain hc]
      simp
    · by_cases hu : r.Updates key
      · rw [trace?_of_updates hplain hu]
        cases hcur : r.body.get? key with
        | none =>
            obtain ⟨old, hold⟩ := Option.ne_none_iff_exists'.mp (hpresent key hu hcur)
            exact ⟨none, by rw [hold]; rfl, fun _ => rfl⟩
        | some new => exact ⟨some new, rfl, fun _ => rfl⟩
      · refine ⟨_, trace?_of_not_updates hplain hu _, fun hid => ?_⟩
        apply Classical.byContradiction
        intro hne
        exact hu ⟨hd key (Ne.symm hne), hid⟩

end

theorem exists_longer_update {value : Option Value} (hk : ¬Pointer.Plain key)
    (hne : base.get? key ≠ value)
    (htrace : trace? key r.patchSteps (base.get? key) = some value) :
    ∃ other, r.Updates other ∧ ¬Pointer.Plain other ∧
      key.toList.length < other.toList.length := by
  obtain ⟨step, hs, hm⟩ : ∃ step ∈ r.patchSteps, step.member? = some key := by
    apply Classical.byContradiction
    intro hno
    have hothers : ∀ step ∈ r.patchSteps, step.member? ≠ some key :=
      fun step hs hm => hno ⟨step, hs, hm⟩
    rw [trace?_of_others hothers, Option.some.injEq] at htrace
    exact hne htrace
  obtain ⟨change, hc, rfl⟩ := mem_patchSteps.mp hs
  have hother : ¬Pointer.Plain change.1 := by
    intro hp
    rw [patchStep_member_of_plain hp, Option.some.injEq] at hm
    exact hk (hm ▸ hp)
  exact ⟨change.1, updates_iff.mpr ⟨change.2, hc⟩, hother, patchStep_member_length hother hm⟩

theorem exists_length_bound (l : List (String × Value)) :
    ∃ bound, ∀ change ∈ l, change.1.toList.length < bound := by
  induction l with
  | nil => exact ⟨0, by simp⟩
  | cons change rest ih =>
      obtain ⟨bound, hb⟩ := ih
      refine ⟨max bound (change.1.toList.length + 1), fun other ho => ?_⟩
      rcases List.mem_cons.mp ho with rfl | ho
      · omega
      · have := hb other ho
        omega

theorem exists_update_bound (r : Resource) :
    ∃ bound, ∀ key, r.Updates key → key.toList.length < bound := by
  obtain ⟨bound, hb⟩ := exists_length_bound r.updates.entries
  refine ⟨bound, fun key hu => ?_⟩
  obtain ⟨value, hm⟩ := updates_iff.mp hu
  exact hb (key, value) hm

theorem plain_of_traces (h : ∀ key, r.Updates key → ∃ value, base.get? key ≠ value ∧
    trace? key r.patchSteps (base.get? key) = some value) :
    ∀ key, r.Updates key → Pointer.Plain key := by
  obtain ⟨bound, hb⟩ := exists_update_bound r
  -- a key that is not plain would need a longer one, and that one another
  have hplain : ∀ n key, r.Updates key → bound ≤ key.toList.length + n → Pointer.Plain key := by
    intro n
    induction n with
    | zero =>
        intro key hu hn
        exact absurd (hb key hu) (Nat.not_lt.mpr hn)
    | succ n ih =>
        intro key hu hn
        apply Classical.byContradiction
        intro hk
        obtain ⟨value, hne, htrace⟩ := h key hu
        obtain ⟨other, ho, hp, hlt⟩ := exists_longer_update hk hne htrace
        exact hp (ih other ho (by omega))
  exact fun key hu => hplain bound key hu (Nat.le_add_left ..)

theorem describes_iff_of_changed (hd : r.body.DeltaFrom base)
    (hchanged : ∀ key, r.Updates key → base.get? key ≠ r.body.get? key) :
    Describes (patchValue r.patchSteps) base r.body.values r.idKey ↔
      ∀ key, r.Updates key → Pointer.Plain key := by
  constructor
  · intro h
    obtain ⟨-, htrace⟩ := describes_patchSteps_iff.mp h
    have htraces : ∀ key, r.Updates key → ∃ value, base.get? key ≠ value ∧
        trace? key r.patchSteps (base.get? key) = some value := by
      intro key hu
      obtain ⟨value, hv, hcur⟩ := htrace key
      refine ⟨value, ?_, hv⟩
      rw [hcur hu.2]
      exact hchanged key hu
    exact plain_of_traces htraces
  · intro hplain
    rw [describes_iff_of_plain hplain hd]
    intro key hu hnone habsent
    exact hchanged key hu (by rw [habsent, hnone])

structure DescribesWhen (document : Value) (r : Resource) (base : Dict Value) : Prop where
  always : Describes document base r.body.values r.idKey ↔
    (∀ step ∈ r.patchSteps, step.member? ≠ none) ∧
    ∀ key, ∃ value, trace? key r.patchSteps (base.get? key) = some value ∧
      (key ≠ r.idKey → value = r.body.get? key)
  plain : (∀ key, r.Updates key → Pointer.Plain key) →
    (Describes document base r.body.values r.idKey ↔
      ∀ key, r.Updates key → r.body.get? key = none → base.get? key ≠ none)
  changed : (∀ key, r.Updates key → base.get? key ≠ r.body.get? key) →
    (Describes document base r.body.values r.idKey ↔ ∀ key, r.Updates key → Pointer.Plain key)

theorem describesWhen_of_delta (hd : r.body.DeltaFrom base) :
    DescribesWhen (patchValue r.patchSteps) r base where
  always := describes_patchSteps_iff
  plain hplain := describes_iff_of_plain hplain hd
  changed := describes_iff_of_changed hd

theorem commit_body {q : Request} (hstyle : r.schema.updateStyle = .patchJson)
    (h : r.plan .commit = .ok (some q)) : q.body = some (patchValue r.patchSteps) := by
  obtain ⟨-, uri, -, rfl⟩ := plan_eq_ok_some h
  simp only [requestTo, updateBody, hstyle]

theorem commit_describesWhen {schema : Schema} {attrs : Dict Value} {es : List Edit} {q : Request}
    (hstyle : schema.updateStyle = .patchJson)
    (hedits : (existing schema attrs).edits es = .ok r) (hplan : r.plan .commit = .ok (some q)) :
    ∃ document, q.body = some document ∧
      DescribesWhen document r (existing schema attrs).body.values := by
  have hschema : r.schema.updateStyle = .patchJson := by rw [schema_edits hedits]; exact hstyle
  exact ⟨_, commit_body hschema hplan, describesWhen_of_delta (deltaFrom_edits hedits)⟩

def machine : Schema :=
  { kind := "lab.machine", service := "lab", basePath := "/machines", updateStyle := .patchJson
    fields := FieldTable.base ++ [{ name := "size" }, { name := "rack", wire := "place/rack" }] }

def machineAttrs : Dict Value := .ofList [("id", .text "m1"), ("name", .text "old")]

def resized : List Edit :=
  [.set "size" (.integer 1), .unset "size", .set "name" (.text "new")]

def resizedMachine : Resource :=
  { schema := machine
    body :=
      { values := .ofList [("id", .text "m1"), ("name", .text "new")]
        dirty := .ofList [("name", ()), ("size", ())] } }

def resizedSteps : List PatchStep := [.add "/name" (.text "new"), .remove "/size"]

def resizedCommit : Request :=
  { method := .patch, url := "/machines/m1", body := some (patchValue resizedSteps)
    service := some "lab" }

theorem commit_resized_describesWhen :
    (existing machine machineAttrs).edits resized = .ok resizedMachine ∧
    resizedMachine.plan .commit = .ok (some resizedCommit) ∧
    ∃ document, resizedCommit.body = some document ∧
      DescribesWhen document resizedMachine (existing machine machineAttrs).body.values :=
  have hedits : (existing machine machineAttrs).edits resized = .ok resizedMachine := by cbv
  have hplan : resizedMachine.plan .commit = .ok (some resizedCommit) := by cbv
  ⟨hedits, hplan, commit_describesWhen rfl hedits hplan⟩

def Misdescribed (schema : Schema) (attrs : Dict Value) (es : List Edit) : Prop :=
  ∃ r q document, (existing schema attrs).edits es = .ok r ∧ r.plan .commit = .ok (some q) ∧
    q.body = some document ∧
    ¬Describes document (existing schema attrs).body.values r.body.values r.idKey

def racked : List Edit := [.set "rack" (.text "r7")]

def rackedMachine : Resource :=
  { schema := machine
    body :=
      { values := .ofList [("id", .text "m1"), ("name", .text "old"), ("place/rack", .text "r7")]
        dirty := .ofList [("place/rack", ())] } }

def rackedSteps : List PatchStep := [.add "/place/rack" (.text "r7")]

theorem resized_and_racked_misdescribed :
    Misdescribed machine machineAttrs resized ∧ Misdescribed machine machineAttrs racked := by
  constructor
  · refine ⟨resizedMachine, resizedCommit, _, by cbv, by cbv, rfl, not_describes_of_none ?_⟩
    decide +kernel
  · refine ⟨rackedMachine, { resizedCommit with body := some (patchValue rackedSteps) }, _,
      by cbv, by cbv, rfl, not_describes_of_none ?_⟩
    decide +kernel

end ControlPlane.Resource
