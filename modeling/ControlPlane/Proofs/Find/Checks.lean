import Mathlib
import ControlPlane.Proofs.Find
import ControlPlane.Proofs.Listing.Preconditions
import ControlPlane.Proofs.Reference
import ControlPlane.Proofs.Resource.Construction

namespace ControlPlane

namespace Find

open Listing (Placed Remains)

variable {σ : Type} {s : Session σ} {schema : Schema} {query name : String} {ignoreMissing : Bool}
  {params : Dict Value} {c : Conversation σ} {f : Field}

def Unknown (schema : Schema) (params : Dict Value) (name : String) : Prop :=
  ∃ v, Remains schema params name v ∧ schema.query.accepts name = false

theorem start_of_unknown (paginated : Bool) (hp : schema.permits .list = true)
    (h : ∃ name, Unknown schema params name) :
    ∃ text, Listing.start schema params paginated = .error (.invalidRequest text) := by
  by_cases hplaced : ∀ slot ∈ schema.slots, Placed schema params slot
  · have hnot : ¬∀ name v, Remains schema params name v → schema.query.accepts name = true := by
      obtain ⟨name, v, hv, hn⟩ := h
      intro hall
      rw [hall name v hv] at hn
      exact absurd hn (by simp)
    obtain ⟨_, _, -, -, hstart⟩ := Listing.start_of_unknown hp hplaced hnot
    exact ⟨_, hstart⟩
  · obtain ⟨_, -, -, hstart⟩ := Listing.start_of_not_placed hp hplaced
    exact ⟨_, hstart⟩

theorem settle_search_of_unknown (hp : schema.permits .list = true)
    (h : ∃ name, Unknown schema params name) : ∃ text, ∀ d : Conversation σ,
      settle schema query ignoreMissing (search s schema query params d).1 =
        .error (.invalidRequest text) ∧ (search s schema query params d).2 = d := by
  obtain ⟨text, hstart⟩ := start_of_unknown true hp h
  refine ⟨text, fun d => ?_⟩
  rw [search, if_pos hp, hstart]
  exact ⟨rfl, rfl⟩

theorem fetch_of_not_ready (hp : schema.permits .fetch = true)
    (h : ¬(candidate schema query params).Ready .fetch) :
    ∃ text, (candidate schema query params).perform s .fetch c = (.error (.invalidRequest text), c) := by
  have hwork : (candidate schema query params).HasWork .fetch := by simp [Resource.HasWork]
  have hplan : ∃ text, (candidate schema query params).plan .fetch = .error (.invalidRequest text) := by
    by_cases hl : (candidate schema query params).Located
    · have hid : (candidate schema query params).id? = none := by
        by_contra hid
        exact h ⟨hwork, hp, hl, fun _ => hid⟩
      exact ⟨_, Resource.plan_of_not_named hwork hp hl (by simp) hid⟩
    · obtain ⟨slot, -, -, he⟩ := Resource.plan_of_not_located hwork hp hl
      exact ⟨_, he⟩
  obtain ⟨text, hplan⟩ := hplan
  exact ⟨text, by rw [Resource.perform, hplan]⟩

theorem uri_candidate (hid : (schema.route "id").1 = .body) :
    (candidate schema query params).uri.values = Listing.uriParams schema params := by
  apply Dict.ext_get?
  intro key
  have hnot : schema.uriField? "id" = none := by
    cases hf : schema.uriField? "id" with
    | none => rfl
    | some f => simp [Schema.route_of_uriField? hf] at hid
  refine Option.ext fun v => ?_
  change (schema.gather .uri _).get? key = some v ↔ _
  rw [Schema.get?_gather, Listing.get?_uriParams_iff]
  simp only [get?_given]
  constructor
  · rintro ⟨name, ⟨rfl, -⟩ | ⟨-, hv, f, hf⟩, hroute, hlast⟩
    · simp [hroute] at hid
    · have hkey : f.wire = key := by simpa [Schema.route_of_uriField? hf] using hroute
      refine ⟨name, f, hv, hf, hkey, fun other w g hw hg hwire => ?_⟩
      have hne : other ≠ "id" := fun he => by simp [← he, hg] at hnot
      exact hlast other w (.inr ⟨hne, hw, g, hg⟩) (by rw [Schema.route_of_uriField? hg, hwire])
  · rintro ⟨name, f, hv, hf, hkey, hlast⟩
    have hne : name ≠ "id" := fun he => by simp [← he, hf] at hnot
    refine ⟨name, .inr ⟨hne, hv, f, hf⟩, by rw [Schema.route_of_uriField? hf, hkey], ?_⟩
    rintro other w (⟨rfl, -⟩ | ⟨-, hw, g, hg⟩) hroute
    · simp [hroute] at hid
    · exact hlast other w g hw hg (by simpa [Schema.route_of_uriField? hg] using hroute)

theorem ready_candidate_iff (hf : schema.field? "id" = some f) (hbody : f.location = .body)
    (htext : f.HoldsText) : (candidate schema query params).Ready .fetch ↔
      schema.permits .fetch = true ∧ ∀ slot ∈ schema.slots, Placed schema params slot := by
  have huri : (candidate schema query params).uri.values = Listing.uriParams schema params :=
    uri_candidate (by rw [Resource.route_eq (f := f) (by rw [Schema.lookup?, hf]; rfl), hbody])
  have hlocated : (candidate schema query params).Located ↔
      ∀ slot ∈ schema.slots, Placed schema params slot := by
    simp only [Listing.placed_iff, Resource.Located, huri]
    rfl
  rw [← hlocated]
  constructor
  · exact fun h => ⟨h.permitted, h.located⟩
  · rintro ⟨hp, hl⟩
    exact ⟨by simp [Resource.HasWork], hp, hl, fun _ => by simp [id?_candidate hf hbody htext]⟩

theorem find_of_not_ready (hp : schema.permits .list = true) (h : ∃ name, Unknown schema params name)
    (hready : ¬(candidate schema query params).Ready .fetch) :
    ∃ text, find s schema query ignoreMissing params c = (.error (.invalidRequest text), c) := by
  by_cases hfetch : schema.permits .fetch = true
  · obtain ⟨text, hperform⟩ := fetch_of_not_ready (s := s) (c := c) hfetch hready
    refine ⟨text, ?_⟩
    rw [find, if_pos hfetch, hperform]
    rfl
  · obtain ⟨text, hsearch⟩ := @settle_search_of_unknown σ s schema query ignoreMissing params hp h
    refine ⟨text, ?_⟩
    rw [find, if_neg hfetch]
    exact Prod.ext (hsearch c).1 (hsearch c).2

section

variable {uri : String} {d : Conversation σ} {e : Error}

theorem find_of_answered (hready : (candidate schema query params).Ready .fetch)
    (hu : (candidate schema query params).path true = .ok uri) {response : Response}
    (hq : s.request (schema.bareRequest .get uri) c = (.ok response, d)) :
    find s schema query ignoreMissing params c =
      (.ok (some ((candidate schema query params).absorb .fetch response)), d) := by
  have hp : schema.permits .fetch = true := hready.permitted
  rw [find, if_pos hp, perform_candidate hp hu, hq]
  rfl

theorem find_of_refused (hready : (candidate schema query params).Ready .fetch)
    (hu : (candidate schema query params).path true = .ok uri)
    (hq : s.request (schema.bareRequest .get uri) c = (.error e, d)) (hname : ¬RefusesId e) :
    find s schema query ignoreMissing params c = (.error e, d) := by
  have hp : schema.permits .fetch = true := hready.permitted
  rw [find, if_pos hp, perform_candidate hp hu, hq]
  change (if mayBeName e = true then _ else _) = _
  rw [if_neg (mt mayBeName_iff.mp hname)]

theorem goesToListing_of_maybe (hready : (candidate schema query params).Ready .fetch)
    (hu : (candidate schema query params).path true = .ok uri)
    (hq : s.request (schema.bareRequest .get uri) c = (.error e, d)) (hname : RefusesId e) :
    GoesToListing s schema (candidate schema query params) c d := by
  have hp : schema.permits .fetch = true := hready.permitted
  exact .inr ⟨hp, e, by rw [perform_candidate hp hu, hq]; rfl, hname⟩

theorem conversation_of_ready (hp : schema.permits .list = true)
    (h : ∃ name, Unknown schema params name) (hready : (candidate schema query params).Ready .fetch)
    (hu : (candidate schema query params).path true = .ok uri) :
    (find s schema query ignoreMissing params c).2 = (s.request (schema.bareRequest .get uri) c).2 := by
  rcases hq : s.request (schema.bareRequest .get uri) c with ⟨e | response, d⟩
  · by_cases hname : RefusesId e
    · obtain ⟨text, hsearch⟩ := @settle_search_of_unknown σ s schema query ignoreMissing params hp h
      rw [find_of_goesToListing (goesToListing_of_maybe hready hu hq hname)]
      exact (hsearch d).2
    · rw [find_of_refused hready hu hq hname]
  · rw [find_of_answered hready hu hq]

end

structure ChecksLate (s : Session σ) (schema : Schema) (query : String) (ignoreMissing : Bool)
    (params : Dict Value) (sought : Resource) (c : Conversation σ) : Prop where
  unasked : ¬sought.Ready .fetch →
    ∃ text, find s schema query ignoreMissing params c = (.error (.invalidRequest text), c)
  asked : sought.Ready .fetch → ∃ url, sought.FoundAt url ∧
    (find s schema query ignoreMissing params c).2 = (s.request (schema.bareRequest .get url) c).2 ∧
    (∀ response, (s.request (schema.bareRequest .get url) c).1 = .ok response →
      (find s schema query ignoreMissing params c).1 = .ok (some (sought.absorb .fetch response))) ∧
    (∀ e, (s.request (schema.bareRequest .get url) c).1 = .error e → RefusesId e →
      ∃ text, (find s schema query ignoreMissing params c).1 = .error (.invalidRequest text)) ∧
    ∀ e, (s.request (schema.bareRequest .get url) c).1 = .error e → ¬RefusesId e →
      (find s schema query ignoreMissing params c).1 = .error e
  early_iff : ((∃ text, (find s schema query ignoreMissing params c).1 =
      .error (.invalidRequest text)) ∧ (find s schema query ignoreMissing params c).2.sent = c.sent) ↔
    ¬sought.Ready .fetch
  ready_iff : ∀ f, schema.field? "id" = some f → f.location = .body → f.HoldsText →
    (sought.Ready .fetch ↔
      schema.permits .fetch = true ∧ ∀ slot ∈ schema.slots, Placed schema params slot)

theorem checksLate_of_unknown (s : Session σ) (query : String) (ignoreMissing : Bool)
    (c : Conversation σ) (hp : schema.permits .list = true) (h : ∃ name, Unknown schema params name) :
    ChecksLate s schema query ignoreMissing params (candidate schema query params) c where
  unasked := find_of_not_ready hp h
  asked hready := by
    obtain ⟨uri, hu⟩ := Resource.path_of_ready hready
    refine ⟨uri, Resource.foundAt_of_path hu, conversation_of_ready hp h hready hu, ?_, ?_, ?_⟩
    · intro response hq
      rw [find_of_answered hready hu (Prod.ext hq rfl)]
    · intro e hq hname
      obtain ⟨text, hsearch⟩ := @settle_search_of_unknown σ s schema query ignoreMissing params hp h
      refine ⟨text, ?_⟩
      rw [find_of_goesToListing (goesToListing_of_maybe hready hu (Prod.ext hq rfl) hname)]
      exact (hsearch _).1
    · intro e hq hname
      rw [find_of_refused hready hu (Prod.ext hq rfl) hname]
  early_iff := by
    constructor
    · rintro ⟨-, hsent⟩ hready
      obtain ⟨uri, hu⟩ := Resource.path_of_ready hready
      -- a search that asks has one message more behind it
      have hgrown := Session.sent_of_request s (Prod.ext rfl rfl :
        s.request (schema.bareRequest .get uri) c = (_, (s.request (schema.bareRequest .get uri) c).2))
      rw [← conversation_of_ready hp h hready hu, hsent] at hgrown
      simpa using congrArg List.length hgrown
    · intro hready
      obtain ⟨text, hfind⟩ := @find_of_not_ready σ s schema query ignoreMissing params c hp h hready
      rw [hfind]
      exact ⟨⟨text, rfl⟩, rfl⟩
  ready_iff _ hf hbody htext := ready_candidate_iff hf hbody htext

theorem find_checks_parameters (s : Session σ) (query : String) (ignoreMissing : Bool)
    (c : Conversation σ) (hp : schema.permits .list = true) (h : ∃ name, Unknown schema params name) :
    ∃ sought, IsSought schema query params sought ∧
      ChecksLate s schema query ignoreMissing params sought c :=
  ⟨candidate schema query params, isSought_candidate schema query params,
    checksLate_of_unknown s query ignoreMissing c hp h⟩

def plainGadgets : Schema := { kind := "lab.gadget", service := "lab", basePath := "/gadgets" }

def redOnes : Dict Value := .ofList [("colour", .text "red")]

theorem unknown_colour : Unknown plainGadgets redOnes "colour" :=
  ⟨.text "red", ⟨by cbv, by cbv, by decide, by decide⟩, by cbv⟩

def gadgetReply : Reply := .success { status := 200, body := some (.record [("id", .text "g1")]) }

theorem find_red_gadget_checks_parameters :
    let found := find .replay plainGadgets "g1" false redOnes { peer := [gadgetReply] }
    plainGadgets.permits .list = true ∧ Unknown plainGadgets redOnes "colour" ∧
      (∃ sought, IsSought plainGadgets "g1" redOnes sought ∧
        ChecksLate .replay plainGadgets "g1" false redOnes sought { peer := [gadgetReply] }) ∧
      found.1 = .ok (some { schema := plainGadgets
                            body := { values := .ofList [("id", .text "g1")] } }) ∧
      found.2.sent = [⟨0, { method := .get, url := "/gadgets/g1", service := some "lab" }⟩] :=
  have hp : plainGadgets.permits .list = true := by decide
  ⟨hp, unknown_colour, find_checks_parameters _ _ _ _ hp ⟨"colour", unknown_colour⟩,
    by cbv, by cbv⟩

theorem unknown_parameter_goes_unnoticed :
    ¬∀ (σ : Type) (s : Session σ) (schema : Schema) (query : String) (ignoreMissing : Bool)
      (params : Dict Value) (c : Conversation σ), schema.permits .list = true →
      (∃ name, Unknown schema params name) →
      (∃ text, (find s schema query ignoreMissing params c).1 = .error (.invalidRequest text)) ∧
        (find s schema query ignoreMissing params c).2.sent = c.sent := by
  intro h
  have hsent : (find .replay plainGadgets "g1" false redOnes { peer := [gadgetReply] }).2.sent.length =
      1 := by cbv
  have hnone := (h _ .replay plainGadgets "g1" false redOnes { peer := [gadgetReply] } (by decide)
    ⟨"colour", unknown_colour⟩).2
  rw [hnone] at hsent
  simp at hsent

end Find

end ControlPlane
