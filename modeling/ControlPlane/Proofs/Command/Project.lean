import Mathlib
import ControlPlane.Proofs.Find.Checks
import ControlPlane.Proofs.Listing.Asking
import ControlPlane.Proofs.Registry
import ControlPlane.Proofs.Wait.Course

namespace ControlPlane

open Listing (Placed Remains uriParams)

structure Schema.Projected (s : Schema) : Prop where
  slot : "project_id" ∈ s.slots
  declared : ∃ f, s.uriField? "project_id" = some f
  alone : ∀ name f, s.uriField? name = some f → f.wire = s.slotKey "project_id" → name = "project_id"
  unkeyed : s.route "id" ≠ (.uri, s.slotKey "project_id")

variable {σ : Type} {s : Session σ} {schema : Schema} {cloud : CloudConfig} {project id : String}
  {c : Conversation σ} {op : Operation}

theorem registry_projected : ∀ e ∈ Registry.entries, "project_id" ∈ e.schema.slots →
    (e.schema.uriField? "project_id").isSome = true ∧
    (∀ f ∈ e.schema.fields, f.location = .uri → f.wire = e.schema.slotKey "project_id" →
      f.name = "project_id") ∧
    e.schema.route "id" ≠ (.uri, e.schema.slotKey "project_id") := by
  decide +kernel

theorem projected_of_lookupKind {kind : String} (h : lookupKind kind = .ok schema)
    (hslot : "project_id" ∈ schema.slots) : schema.Projected := by
  obtain ⟨e, he, rfl, -⟩ := mem_registry_of_lookupKind h
  obtain ⟨hdeclared, halone, hunkeyed⟩ := registry_projected e he hslot
  refine ⟨hslot, Option.isSome_iff_exists.mp hdeclared, fun name f hf hwire => ?_, hunkeyed⟩
  obtain ⟨hm, rfl, hlocation⟩ := Schema.mem_of_uriField? hf
  exact halone f hm hlocation hwire

theorem not_located_withId (h : schema.Projected) (id : String) :
    ¬(Resource.withId schema id).Located := by
  intro hlocated
  obtain ⟨v, hv, -⟩ := hlocated "project_id" h.slot
  obtain ⟨name, hname, hroute, -⟩ := Schema.get?_gather.mp hv
  have hid : name = "id" := by
    by_contra hne
    simp [Dict.get?_ofList, Ne.symm hne] at hname
  exact h.unkeyed (hid ▸ hroute)

theorem perform_withId (h : schema.Projected) (hop : op ≠ .commit)
    (hp : schema.permits op.capability = true) (s : Session σ) (id : String) (c : Conversation σ) :
    ∃ slot ∈ schema.slots,
      (Resource.withId schema id).perform s op c = (.error (schema.unfilled slot), c) := by
  have hwork : (Resource.withId schema id).HasWork op := fun he => absurd he hop
  obtain ⟨slot, hslot, -, hplan⟩ := Resource.plan_of_not_located hwork hp (not_located_withId h id)
  exact ⟨slot, hslot, by rw [Resource.perform, hplan]; rfl⟩

theorem silent_withId (h : schema.Projected) :
    ((Resource.withId schema id).perform s op c).2 = c :=
  Resource.perform_of_not_ready fun hready => not_located_withId h id hready.located

theorem sent_poll_of_not_ready {r : Resource} (w : Watch) (t : Ticker) (h : ¬r.Ready .fetch) :
    (poll s w t r c).2.sent = c.sent := by
  rw [poll_eq]
  split
  · rfl
  · obtain ⟨e, -, -, hanswer, hsent⟩ := @Look.fetch_of_not_ready σ (t.look r c) s h
    rw [hanswer]
    change ((t.look r c).after s).sent = c.sent
    rw [Look.sent_after, hsent, List.append_nil]
    rfl

theorem forAttribute_of_unasked {target : Wait.Target} {policy : WaitPolicy} {r : Resource} {e : Error}
    (hopen : target.reached r = false) (htime : policy.timeout ≠ some 0)
    (hperform : r.perform s .fetch c = (.error e, c)) (he : e.isNotFound = false) :
    Wait.forAttribute s target policy r c = ((.error e, r), c) := by
  rw [Wait.forAttribute, if_neg (by simp [hopen])]
  dsimp only
  generalize ht : Ticker.begin policy _ c = t
  have hlook : t.look r c = ⟨r, c⟩ := by rw [← ht]; rfl
  have hexpired : t.expired (t.look r c).talk.clock = false := by
    rw [hlook, Ticker.expired_eq_false_iff, ← ht]
    intro limit hlimit
    -- no time has passed at the first look
    have hpos : limit ≠ 0 := fun hzero => htime (hzero ▸ hlimit)
    change c.clock - c.clock < limit
    omega
  have hanswer : (t.look r c).answer s = .error e := by
    rw [hlook, Look.answer, Look.fetch, hperform]
  have hafter : (t.look r c).after s = c := by
    rw [hlook, Look.after, Look.fetch, hperform]
  have hend : target.onError (Wait.describe r) e = .error e := by
    rw [Wait.Target.onError, he, if_neg Bool.false_ne_true]
  rw [poll_eq, hexpired, if_neg Bool.false_ne_true, Look.left_of_error hanswer, hafter, hanswer, hlook]
  change ((target.onError (Wait.describe r) e, r), c) = _
  rw [hend]

namespace Command

def refusal (schema : Schema) (slot : String) : Except Failure String :=
  .error (.error (.invalidRequest (schema.kind ++ " requires '" ++ slot ++ "' to build its path")))

theorem not_placed_empty (slot : String) : ¬Placed schema .empty slot := by
  rintro ⟨name, v, hv, -⟩
  simp at hv

theorem runView_of_projected (h : schema.Projected)
    (hp : schema.permits .fetch = true ∨ schema.permits .list = true) (nameOrId : String) :
    ∃ slot ∈ schema.slots, runView s schema nameOrId c = (refusal schema slot, c) := by
  by_cases hfetch : schema.permits .fetch = true
  · obtain ⟨slot, hslot, hperform⟩ := perform_withId h (by decide : Operation.fetch ≠ .commit)
      hfetch s nameOrId c
    refine ⟨slot, hslot, ?_⟩
    have hfind : Find.find s schema nameOrId false .empty c = (.error (schema.unfilled slot), c) := by
      have hcandidate : Find.candidate schema nameOrId .empty = .withId schema nameOrId := rfl
      rw [Find.find, if_pos hfetch, hcandidate, hperform]
      rfl
    rw [runView, hfind]
    rfl
  · have hlist : schema.permits .list = true := hp.resolve_left hfetch
    obtain ⟨slot, hslot, -, hstart⟩ := @Listing.start_of_not_placed schema .empty true hlist
      fun hall => not_placed_empty "project_id" (hall "project_id" h.slot)
    refine ⟨slot, hslot, ?_⟩
    have hfind : Find.find s schema nameOrId false .empty c = (.error (schema.unfilled slot), c) := by
      rw [Find.find_of_goesToListing (.inl ⟨Bool.eq_false_iff.mpr hfetch, rfl⟩), Find.search,
        if_pos hlist, hstart]
      rfl
    rw [runView, hfind]
    rfl

theorem silent_runView (h : schema.Projected) (nameOrId : String) :
    (runView s schema nameOrId c).2 = c := by
  by_cases hp : schema.permits .fetch = true ∨ schema.permits .list = true
  · obtain ⟨slot, -, hrun⟩ := runView_of_projected (s := s) (c := c) h hp nameOrId
    rw [hrun]
  · obtain ⟨hfetch, hlist⟩ := not_or.mp hp
    rw [runView, Find.find_of_goesToListing (.inl ⟨Bool.eq_false_iff.mpr hfetch, rfl⟩), Find.search,
      if_neg hlist]

theorem runDelete_of_projected (h : schema.Projected) (hp : schema.permits .delete = true) (id : String)
    (ignoreMissing : Bool) :
    ∃ slot ∈ schema.slots, runDelete s schema id ignoreMissing c = (refusal schema slot, c) := by
  obtain ⟨slot, hslot, hperform⟩ := perform_withId h (by decide : Operation.delete ≠ .commit) hp s id c
  refine ⟨slot, hslot, ?_⟩
  rw [runDelete, hperform]
  rfl

theorem silent_runDelete (h : schema.Projected) (id : String) (ignoreMissing : Bool) :
    (runDelete s schema id ignoreMissing c).2 = c := by
  rw [runDelete]
  exact silent_withId h

theorem runWait_of_projected {target : Wait.Target} {policy : WaitPolicy} (h : schema.Projected)
    (hp : schema.permits .fetch = true) (hopen : target.reached (.withId schema id) = false)
    (htime : policy.timeout ≠ some 0) :
    ∃ slot ∈ schema.slots, runWait s schema id target policy c = (refusal schema slot, c) := by
  obtain ⟨slot, hslot, hperform⟩ := perform_withId h (by decide : Operation.fetch ≠ .commit) hp s id c
  refine ⟨slot, hslot, ?_⟩
  rw [runWait, forAttribute_of_unasked hopen htime hperform rfl]
  rfl

theorem silent_runWait (h : schema.Projected) (id : String) (target : Wait.Target)
    (policy : WaitPolicy) : (runWait s schema id target policy c).2.sent = c.sent := by
  rw [runWait, Wait.forAttribute]
  by_cases hreached : target.reached (.withId schema id) = true
  · rw [if_pos hreached]
    rfl
  · rw [if_neg hreached]
    exact sent_poll_of_not_ready _ _ fun hready => not_located_withId h id hready.located

theorem get?_project (h : schema.Projected) (hproject : cloud.projectId = some project)
    {filters : List (String × Value)} (hfilters : ∀ f ∈ filters, f.1 ≠ "project_id")
    (limit : Option Nat) :
    (listParams cloud schema filters limit).get? "project_id" = some (.text project) := by
  have hslot : (pathPieces none schema.basePath.toList).contains (.slot "project_id") = true :=
    List.contains_iff_mem.mpr (Schema.mem_slots.mp h.slot)
  have hparams : projectParams cloud schema = [("project_id", .text project)] := by
    rw [projectParams, hproject]
    exact if_pos hslot
  have hnone : filters.filter (·.1 == "project_id") = [] :=
    List.filter_eq_nil_iff.mpr fun f hf hkey => hfilters f hf (eq_of_beq hkey)
  rw [listParams, Dict.get?_ofList, hparams, List.filter_append, List.filter_append, hnone]
  cases limit <;> rfl

structure ListsInProject (s : Session σ) (cloud : CloudConfig) (schema : Schema) (project : String)
    (filters : List (String × Value)) (limit : Option Nat) (paginated : Bool)
    (c : Conversation σ) : Prop where
  started : (∃ l, Listing.start schema (listParams cloud schema filters limit) paginated = .ok l) ↔
    (∀ slot ∈ schema.slots, slot ≠ "project_id" →
      Placed schema (listParams cloud schema filters limit) slot) ∧
    ∀ name v, Remains schema (listParams cloud schema filters limit) name v →
      schema.query.accepts name = true
  asked : ∀ l, Listing.start schema (listParams cloud schema filters limit) paginated = .ok l →
    ∃ fill requests, fill "project_id" = project ∧ requests ≠ [] ∧
      (runList s cloud schema filters limit paginated c).2.sent.map Sent.request =
        c.sent.map Sent.request ++ requests.map s.dress ∧
      ∀ q ∈ requests, q.url = schema.pathWith fill

theorem listsInProject_of_projected (h : schema.Projected) (hp : schema.permits .list = true)
    (hproject : cloud.projectId = some project) {filters : List (String × Value)}
    (hfilters : ∀ f ∈ filters, f.1 ≠ "project_id") (limit : Option Nat) (paginated : Bool) :
    ListsInProject s cloud schema project filters limit paginated c := by
  obtain ⟨f, hf⟩ := h.declared
  have hkey : schema.slotKey "project_id" = f.wire := by rw [Schema.slotKey, hf]
  have hgiven := get?_project h hproject hfilters limit
  have hsole : Listing.Sole schema (listParams cloud schema filters limit) "project_id" f :=
    fun other w g _ hg hwire => h.alone other g hg (hkey ▸ hwire)
  have hplaced : Placed schema (listParams cloud schema filters limit) "project_id" :=
    (Listing.placed_of_sole hgiven hf hkey.symm fun other _ g _ => h.alone other g).mpr (by simp)
  constructor
  · rw [Listing.exists_start_iff, Listing.startable_iff, and_iff_right hp]
    constructor
    · rintro ⟨hslots, hknown⟩
      exact ⟨fun slot hslot _ => hslots slot hslot, hknown⟩
    · rintro ⟨hslots, hknown⟩
      refine ⟨fun slot hslot => ?_, hknown⟩
      by_cases hown : slot = "project_id"
      · rw [hown]
        exact hplaced
      · exact hslots slot hslot hown
  · intro l hl
    obtain ⟨requests, hsent, hne, hall⟩ := Listing.requests_of_all s c hl
    obtain ⟨-, hpath, -, -⟩ := Listing.start_eq_ok_iff.mp hl
    refine ⟨schema.slotText (uriParams schema (listParams cloud schema filters limit)), requests, ?_,
      hne, hsent, fun q hq => ?_⟩
    · rw [Schema.slotText, hkey, Listing.get?_uriParams_of_sole hgiven hf hsole]
      rfl
    · rw [(hall q hq).2, Schema.collectionPath_eq_ok hpath]

structure UsesProject (s : Session σ) (cloud : CloudConfig) (schema : Schema) (project : String)
    (c : Conversation σ) : Prop where
  lists : schema.permits .list = true → ∀ filters limit paginated,
    (∀ f ∈ filters, f.1 ≠ "project_id") →
      ListsInProject s cloud schema project filters limit paginated c
  views : schema.permits .fetch = true ∨ schema.permits .list = true → ∀ nameOrId,
    ∃ slot ∈ schema.slots, runView s schema nameOrId c = (refusal schema slot, c)
  deletes : schema.permits .delete = true → ∀ id ignoreMissing,
    ∃ slot ∈ schema.slots, runDelete s schema id ignoreMissing c = (refusal schema slot, c)
  waits : schema.permits .fetch = true → ∀ id target (policy : WaitPolicy),
    target.reached (.withId schema id) = false → policy.timeout ≠ some 0 →
      ∃ slot ∈ schema.slots, runWait s schema id target policy c = (refusal schema slot, c)
  silent : ∀ id ignoreMissing target policy, (runView s schema id c).2.sent = c.sent ∧
    (runDelete s schema id ignoreMissing c).2.sent = c.sent ∧
    (runWait s schema id target policy c).2.sent = c.sent

theorem project_fills_listings_alone (s : Session σ) (c : Conversation σ)
    (hproject : cloud.projectId = some project) :
    (∀ kind schema, lookupKind kind = .ok schema → "project_id" ∈ schema.slots → schema.Projected) ∧
      ∀ schema : Schema, schema.Projected → UsesProject s cloud schema project c := by
  refine ⟨fun kind schema => projected_of_lookupKind, fun schema h => ?_⟩
  exact {
    lists := fun hp filters limit paginated hfilters =>
      listsInProject_of_projected h hp hproject hfilters limit paginated
    views := runView_of_projected h
    deletes := runDelete_of_projected h
    waits := fun hp id target policy => runWait_of_projected h hp
    silent := fun id ignoreMissing target policy =>
      ⟨by rw [silent_runView h], by rw [silent_runDelete h], silent_runWait h id target policy⟩ }

def projectCloud : CloudConfig := { projectId := some "p1" }

theorem lookupKind_job : lookupKind "ecs.job" = .ok Compute.Job.schema := by cbv

theorem slots_job : Compute.Job.schema.slots = ["project_id"] := by cbv

def openJobs : Schema := { Compute.Job.schema with allow := Capability.crud }

theorem jobs_use_project : Compute.Job.schema.Projected ∧ openJobs.Projected ∧
    UsesProject .replay projectCloud Compute.Job.schema "p1" { peer := [] } ∧
    UsesProject .replay projectCloud openJobs "p1" { peer := [] } := by
  obtain ⟨hregistered, huses⟩ :=
    project_fills_listings_alone .replay { peer := [] } (rfl : projectCloud.projectId = some "p1")
  have hjob : Compute.Job.schema.Projected :=
    hregistered "ecs.job" _ lookupKind_job (by rw [slots_job]; exact List.mem_singleton.mpr rfl)
  have hopen : openJobs.Projected := ⟨hjob.slot, hjob.declared, hjob.alone, hjob.unkeyed⟩
  exact ⟨hjob, hopen, huses _ hjob, huses _ hopen⟩

theorem show_job_misses_project :
    ¬∀ (σ : Type) (s : Session σ) (cloud : CloudConfig) (project kind nameOrId : String)
      (schema : Schema) (c : Conversation σ), lookupKind kind = .ok schema →
      "project_id" ∈ schema.slots → cloud.projectId = some project →
      schema.permits .fetch = true →
      (run s cloud (.view kind nameOrId) c).1 ≠ refusal schema "project_id" := by
  intro h
  have hslot : "project_id" ∈ Compute.Job.schema.slots := by simp [slots_job]
  obtain ⟨slot, hm, hrun⟩ := runView_of_projected (s := .replay) (c := { peer := [] })
    (projected_of_lookupKind lookupKind_job hslot) (.inl (by decide)) "j1"
  rw [slots_job, List.mem_singleton] at hm
  refine h _ .replay projectCloud "p1" "ecs.job" "j1" Compute.Job.schema { peer := [] } lookupKind_job
    hslot rfl (by decide) ?_
  rw [run, withKind, lookupKind_job]
  change (runView .replay Compute.Job.schema "j1" { peer := [] }).1 = _
  rw [hrun, hm]

end Command

end ControlPlane
