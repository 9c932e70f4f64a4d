import Mathlib
import ControlPlane.Proofs.Json.Scalar
import ControlPlane.Proofs.Listing.Asking
import ControlPlane.Proofs.Listing.Preconditions
import ControlPlane.Proofs.Registry

namespace ControlPlane

def Value.Typed : Value → Prop
  | .bool _ | .integer _ | .float _ => True
  | _ => False

theorem Dict.entries_singleton {α : Type} {d : Dict α} {key : String} {v : α}
    (h : ∀ x w, d.get? x = some w ↔ x = key ∧ w = v) : d.entries = [(key, v)] := by
  have hd : d = Dict.empty.insert key v := by
    refine Dict.ext_get? fun x => Option.ext fun w => ?_
    rw [h, Dict.get?_insert, Dict.get?_empty]
    by_cases hx : key = x
    · rw [if_pos hx, Option.some.injEq, and_iff_right hx.symm, eq_comm]
    · rw [if_neg hx]
      simp [Ne.symm hx]
  rw [hd]
  rfl

namespace Command

open Listing (Placed filterParams queryParams askedLimit? askedMarker?)

variable {σ : Type} {s : Schema} {kind name server text : String} {cloud : CloudConfig}
  {before after : List (String × String)}

theorem projectParams_of_unslotted (h : "project_id" ∉ s.slots) : projectParams cloud s = [] := by
  have hnot : (pathPieces none s.basePath.toList).contains (.slot "project_id") = false := by
    rw [Bool.eq_false_iff, Ne, List.contains_iff_mem, ← Schema.mem_slots]
    exact h
  rw [projectParams]
  cases cloud.projectId with
  | none => rfl
  | some project => exact if_neg (by rw [hnot]; exact Bool.false_ne_true)

def givenParams (filters : List (String × String)) : Dict Value := .ofList (filters.map Filter.read)

theorem listParams_eq_givenParams (h : "project_id" ∉ s.slots) (filters : List (String × String)) :
    listParams cloud s (filters.map Filter.read) none = givenParams filters := by
  rw [listParams, projectParams_of_unslotted h, givenParams]
  exact congrArg Dict.ofList (List.append_nil _)

theorem filter_fills {filters : List (String × String)} {x : String}
    (hfills : ∀ f ∈ filters, ∃ field, s.uriField? f.1 = some field) (hx : s.uriField? x = none) :
    (filters.map Filter.read).filter (·.1 == x) = [] := by
  rw [List.filter_eq_nil_iff]
  intro pair hpair hkey
  obtain ⟨f, hf, rfl⟩ := List.mem_map.mp hpair
  obtain ⟨field, hfield⟩ := hfills f hf
  rw [show f.1 = x from eq_of_beq hkey, hx] at hfield
  simp at hfield

theorem get?_givenParams {x : String} {w : Value}
    (hfills : ∀ f ∈ before ++ after, ∃ field, s.uriField? f.1 = some field)
    (hx : s.uriField? x = none) :
    (givenParams (before ++ (name, text) :: after)).get? x = some w ↔
      x = name ∧ w = Filter.valueOf text := by
  have hbefore := filter_fills (fun f hf => hfills f (List.mem_append_left after hf)) hx
  have hafter := filter_fills (fun f hf => hfills f (List.mem_append_right before hf)) hx
  rw [givenParams, Dict.get?_ofList, List.map_append, List.map_cons, List.filter_append, hbefore,
    List.filter_cons, hafter, Filter.read]
  by_cases hname : name = x
  · rw [if_pos (by simpa using hname)]
    simp [hname, eq_comm]
  · rw [if_neg (by simpa using hname)]
    simp [Ne.symm hname]

structure Filters (s : Schema) (name server : String) : Prop where
  known : s.query.names.get? name = some server
  unplaced : s.uriField? name = none
  notLimit : name ≠ "limit"
  notMarker : name ≠ "marker"

theorem accepts_of_filters (h : Filters s name server) : s.query.accepts name = true := by
  rw [QueryMapping.accepts, Dict.contains_eq_isSome, h.known]
  rfl

theorem transpose_given (h : Filters s name server)
    (hfills : ∀ f ∈ before ++ after, ∃ field, s.uriField? f.1 = some field) :
    s.query.transpose (filterParams s (givenParams (before ++ (name, text) :: after))) =
      .ok ((queryText? (Filter.valueOf text)).map fun sent => (server, sent)).toList := by
  have hentries : (filterParams s (givenParams (before ++ (name, text) :: after))).entries =
      [(name, Filter.valueOf text)] := by
    refine Dict.entries_singleton fun x w => ?_
    rw [Listing.get?_filterParams, Listing.get?_queryParams]
    constructor
    · rintro ⟨-, -, hw, hx⟩
      exact (get?_givenParams hfills hx).mp hw
    · rintro ⟨rfl, rfl⟩
      exact ⟨h.notMarker, h.notLimit, (get?_givenParams hfills h.unplaced).mpr ⟨rfl, rfl⟩, h.unplaced⟩
  rw [QueryMapping.transpose, hentries, QueryMapping.pairs, h.known]
  cases queryText? (Filter.valueOf text) <;> rfl

theorem unpaged (hfills : ∀ f ∈ before ++ after, ∃ field, s.uriField? f.1 = some field) {x : String}
    (hx : x ≠ name) :
    (queryParams s (givenParams (before ++ (name, text) :: after))).get? x = none := by
  rw [Option.eq_none_iff_forall_ne_some]
  intro w hw
  obtain ⟨hgiven, hnone⟩ := Listing.get?_queryParams.mp hw
  exact hx ((get?_givenParams hfills hnone).mp hgiven).1

theorem start_given (paginated : Bool) (hp : s.permits .list = true) (h : Filters s name server)
    (hfills : ∀ f ∈ before ++ after, ∃ field, s.uriField? f.1 = some field)
    (hplaced : ∀ slot ∈ s.slots, Placed s (givenParams (before ++ (name, text) :: after)) slot) :
    ∃ l, Listing.start s (givenParams (before ++ (name, text) :: after)) paginated = .ok l ∧
      l.pageRequest.params =
        ((queryText? (Filter.valueOf text)).map fun sent => (server, sent)).toList := by
  have hstartable : Listing.Startable s (givenParams (before ++ (name, text) :: after)) := by
    refine Listing.startable_iff.mpr ⟨hp, hplaced, ?_⟩
    rintro x w ⟨hw, hx, -, -⟩
    rw [((get?_givenParams hfills hx).mp hw).1]
    exact accepts_of_filters h
  obtain ⟨l, hl⟩ := Listing.exists_start_iff.mpr hstartable
  obtain ⟨-, -, hfilters, hform⟩ := Listing.start_eq_ok_iff.mp hl
  rw [transpose_given h hfills] at hfilters
  have hlimit : askedLimit? s (givenParams (before ++ (name, text) :: after)) = none := by
    rw [askedLimit?, unpaged hfills h.notLimit.symm]
    rfl
  have hmarker : askedMarker? s (givenParams (before ++ (name, text) :: after)) = none := by
    rw [askedMarker?, unpaged hfills h.notMarker.symm]
    rfl
  refine ⟨l, hl, ?_⟩
  rw [hform, hlimit, hmarker, Except.ok.inj hfilters]
  simp [Listing.pageRequest, Listing.nextLimit, Listing.optionalPair]

structure Carries (q : Request) (server text : String) : Prop where
  verbatim : Json.parse text = none → q.params = [(server, text)]
  typed : ∀ v : Value, Json.parse text = some v → v.Typed → q.params = [(server, Json.compact v)]
  faithful : ∀ v : Value, Json.Exact v → text = Json.compact v → q.params = [(server, text)]

theorem queryText?_of_typed {v : Value} (h : v.Typed) : queryText? v = some (Json.compact v) := by
  cases v with
  | bool | integer | float => rfl
  | null | text | list | record => exact absurd h id

theorem typed_of_exact {v : Value} (h : Json.Exact v) : v.Typed := by
  cases v with
  | bool | integer => trivial
  | null | float | text | list | record => exact absurd h id

theorem carries_of_params {q : Request} (h : q.params =
    ((queryText? (Filter.valueOf text)).map fun sent => (server, sent)).toList) :
    Carries q server text := by
  have htyped : ∀ v : Value, Json.parse text = some v → v.Typed →
      q.params = [(server, Json.compact v)] := by
    intro v hv ht
    rw [h, Filter.valueOf, hv, Option.getD_some, queryText?_of_typed ht]
    rfl
  refine ⟨fun hnone => ?_, htyped, fun v hexact htext => ?_⟩
  · rw [h, Filter.valueOf, hnone]
    rfl
  · have hv : Json.parse text = some v := by rw [htext, Json.parse_compact hexact]
    rw [htyped v hv (typed_of_exact hexact), htext]

theorem run_list {config : Except Error Config} {env : Environment}
    {session : CloudConfig → Session σ} {c : Conversation σ} {i : Invocation}
    {filters : List (String × Value)} {limit : Option Nat} {paginated : Bool}
    (hi : i.command = .list kind filters limit paginated) (hkind : lookupKind kind = .ok s)
    (hcloud : (config.bind fun config => config.cloud env i.cloud) = .ok cloud) :
    (i.run config env session c).2 =
      (Listing.all (session cloud) s (listParams cloud s filters limit) paginated c).2 := by
  rw [Invocation.run, if_neg (by simp [hi]), hcloud, hi]
  change (withKind kind _ c).2 = _
  rw [withKind, hkind]
  rfl

def AsksFirst (i : Invocation) (P : Request → Prop) : Prop :=
  ∀ {σ : Type} (session : CloudConfig → Session σ) (config : Except Error Config) (env : Environment)
    (cloud : CloudConfig) (c : Conversation σ),
    (config.bind fun config => config.cloud env i.cloud) = .ok cloud →
    ∃ q : Request, q.method = .get ∧ P q ∧
      c.sent ++ [⟨c.clock, (session cloud).dress q⟩] <+: (i.run config env session c).2.sent

theorem parse_filters (hkind : lookupKind kind = .ok s) (h : Filters s name server)
    (hfills : ∀ f ∈ before ++ after, ∃ field, s.uriField? f.1 = some field) :
    Invocation.parse ("list" :: kind :: filterArguments (before ++ (name, text) :: after)) =
      .ok (listing kind (before ++ (name, text) :: after)) := by
  refine Invocation.parse_list (opensWord_of_lookupKind hkind) fun f hf => ?_
  by_cases hown : f = (name, text)
  · rw [hown]
    exact namesFilter_of_query hkind h.known
  · have hother : f ∈ before ++ after := by
      rw [List.mem_append, List.mem_cons] at hf
      rcases hf with hf | hf | hf
      · exact List.mem_append_left after hf
      · exact absurd hf hown
      · exact List.mem_append_right before hf
    obtain ⟨field, hfield⟩ := hfills f hother
    exact namesFilter_of_uriField? hkind hfield

theorem asksFirst_given (hkind : lookupKind kind = .ok s) (hp : s.permits .list = true)
    (h : Filters s name server)
    (hfills : ∀ f ∈ before ++ after, ∃ field, s.uriField? f.1 = some field)
    (hplaced : ∀ slot ∈ s.slots, Placed s (givenParams (before ++ (name, text) :: after)) slot) :
    AsksFirst (listing kind (before ++ (name, text) :: after)) fun q =>
      q.params = ((queryText? (Filter.valueOf text)).map fun sent => (server, sent)).toList := by
  intro σ session config env cloud c hcloud
  obtain ⟨e, he, rfl, -⟩ := mem_registry_of_lookupKind hkind
  obtain ⟨l, hl, hparams⟩ := start_given true hp h hfills hplaced
  refine ⟨l.pageRequest, rfl, hparams, ?_⟩
  rw [run_list rfl hkind hcloud, listParams_eq_givenParams (registry_unprojected e he hp)]
  exact Listing.first_of_all (session cloud) c hl

theorem list_sends_filter (hkind : lookupKind kind = .ok s) (hp : s.permits .list = true)
    (h : Filters s name server)
    (hfills : ∀ f ∈ before ++ after, ∃ field, s.uriField? f.1 = some field)
    (hplaced : ∀ slot ∈ s.slots, Placed s (givenParams (before ++ (name, text) :: after)) slot) :
    ∃ i, Invocation.parse ("list" :: kind :: filterArguments (before ++ (name, text) :: after)) =
        .ok i ∧ AsksFirst i fun q => Carries q server text := by
  refine ⟨_, parse_filters hkind h hfills, fun session config env cloud c hcloud => ?_⟩
  obtain ⟨q, hmethod, hparams, hsent⟩ :=
    asksFirst_given hkind hp h hfills hplaced session config env cloud c hcloud
  exact ⟨q, hmethod, carries_of_params hparams, hsent⟩

theorem filters_lifecycle_state :
    Filters AutoScaling.Instance.schema "lifecycle_state" "life_cycle_state" :=
  ⟨by cbv, by cbv, by decide, by decide⟩

def instanceFilters : List (String × String) :=
  [("scaling_group_id", "g1"), ("lifecycle_state", "INSERVICE")]

theorem list_instances_sends_state : ∃ i,
    Invocation.parse ("list" :: "auto-scaling.instance" :: filterArguments instanceFilters) = .ok i ∧
      AsksFirst i fun q => q.params = [("life_cycle_state", "INSERVICE")] := by
  have hkind : lookupKind "auto-scaling.instance" = .ok AutoScaling.Instance.schema := by cbv
  have hfills : ∀ f ∈ [("scaling_group_id", "g1")] ++ [],
      ∃ field, AutoScaling.Instance.schema.uriField? f.1 = some field := by
    intro f hf
    rw [List.append_nil, List.mem_singleton] at hf
    exact ⟨_, by rw [hf]; cbv⟩
  have hslots : AutoScaling.Instance.schema.slots = ["scaling_group_id"] := by cbv
  have hplaced : ∀ slot ∈ AutoScaling.Instance.schema.slots,
      Placed AutoScaling.Instance.schema (givenParams instanceFilters) slot := by
    intro slot hslot
    rw [hslots, List.mem_singleton] at hslot
    rw [hslot, Listing.placed_iff]
    exact ⟨.text "g1", by cbv, by simp⟩
  obtain ⟨i, hparse, hasks⟩ :=
    list_sends_filter hkind (by decide) filters_lifecycle_state hfills hplaced
  refine ⟨i, hparse, fun session config env cloud c hcloud => ?_⟩
  obtain ⟨q, hmethod, hcarries, hsent⟩ := hasks session config env cloud c hcloud
  exact ⟨q, hmethod, hcarries.verbatim (by cbv), hsent⟩

theorem exponent_is_written_out :
    ¬∀ (kind name server text : String) (s : Schema) (before after : List (String × String)),
      lookupKind kind = .ok s → s.permits .list = true → '=' ∉ name.toList → Filters s name server →
      (∀ f ∈ before ++ after, ∃ field, s.uriField? f.1 = some field) →
      (∀ slot ∈ s.slots, Placed s (givenParams (before ++ (name, text) :: after)) slot) →
      ∃ i, Invocation.parse ("list" :: kind :: filterArguments (before ++ (name, text) :: after)) =
        .ok i ∧ AsksFirst i fun q => q.params = [(server, text)] := by
  intro h
  have hkind : lookupKind "volume.volume" = .ok Volume.schema := by cbv
  have hp : Volume.schema.permits .list = true := by decide
  have hfilters : Filters Volume.schema "name" "name" := ⟨by cbv, by cbv, by decide, by decide⟩
  have hfills : ∀ f ∈ ([] : List (String × String)) ++ [],
      ∃ field, Volume.schema.uriField? f.1 = some field := by simp
  have hplaced : ∀ slot ∈ Volume.schema.slots,
      Placed Volume.schema (givenParams ([] ++ ("name", "1e3") :: [])) slot := by
    have hslots : Volume.schema.slots = [] := by cbv
    simp [hslots]
  have heq : '=' ∉ "name".toList := by decide
  obtain ⟨i, hparse, hverbatim⟩ :=
    h "volume.volume" "name" "name" "1e3" Volume.schema [] [] hkind hp heq hfilters hfills hplaced
  rw [parse_filters hkind hfilters hfills, Except.ok.injEq] at hparse
  rw [← hparse] at hverbatim
  let config : Except Error Config := .ok ⟨.ofList [("lab", {})]⟩
  have hcloud : (config.bind fun config => config.cloud {} none) = .ok {} := rfl
  obtain ⟨q, -, hparams, hsent⟩ := asksFirst_given hkind hp hfilters hfills hplaced
    (fun _ => .replay) config {} {} { peer := [] } hcloud
  obtain ⟨q', -, htext, hsent'⟩ :=
    hverbatim (fun _ => .replay) config {} {} { peer := [] } hcloud
  -- both are the first message of the one run
  have hsame : q = q' := by
    have hone := List.prefix_of_prefix_length_le hsent hsent' (Nat.le_refl _)
    simpa [Session.replay] using hone.eq_of_length rfl
  have hwritten : queryText? (Filter.valueOf "1e3") = some "1000.0" := by decide +kernel
  rw [hsame, htext, hwritten] at hparams
  simp at hparams

end Command

end ControlPlane
