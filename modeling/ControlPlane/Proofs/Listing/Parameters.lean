import ControlPlane.Proofs.Attribute.Filling
import ControlPlane.Proofs.Listing.Protocol

namespace ControlPlane

theorem queryText?_eq_none_iff {v : Value} : queryText? v = none ↔ v = .null := by
  cases v <;> simp [queryText?]

namespace QueryMapping

variable {m : QueryMapping}

def pair? (m : QueryMapping) (param : String × Value) : Option (String × String) :=
  (m.names.get? param.1).bind fun server => (queryText? param.2).map fun text => (server, text)

theorem pairs_eq_ok {params : List (String × Value)} {pairs : List (String × String)}
    (h : m.pairs params = .ok pairs) :
    pairs = params.filterMap m.pair? ∧
      ∀ param ∈ params, ∃ server, m.names.get? param.1 = some server := by
  induction params generalizing pairs with
  | nil => simpa [QueryMapping.pairs, eq_comm] using h
  | cons param rest ih =>
      obtain ⟨name, value⟩ := param
      rw [QueryMapping.pairs] at h
      cases hn : m.names.get? name with
      | none => simp [hn] at h
      | some server =>
          cases hr : m.pairs rest with
          | error e => simp [hn, hr] at h
          | ok others =>
              obtain ⟨hothers, hknown⟩ := ih hr
              refine ⟨?_, fun param hparam => ?_⟩
              · cases ht : queryText? value with
                | none =>
                    simp only [hn, hr, ht, Except.ok.injEq] at h
                    rw [List.filterMap_cons_none (by simp [pair?, ht]), ← h, hothers]
                | some text =>
                    simp only [hn, hr, ht, Except.ok.injEq] at h
                    rw [List.filterMap_cons_some (b := (server, text)) (by simp [pair?, hn, ht]), ← h,
                      hothers]
              · rcases List.mem_cons.mp hparam with rfl | hrest
                · exact ⟨server, hn⟩
                · exact hknown param hrest

theorem pairs_of_accepted {params : List (String × Value)}
    (h : ∀ param ∈ params, m.accepts param.1 = true) : ∃ pairs, m.pairs params = .ok pairs := by
  induction params with
  | nil => exact ⟨[], rfl⟩
  | cons param rest ih =>
      obtain ⟨name, value⟩ := param
      obtain ⟨others, hothers⟩ := ih fun param hparam => h param (List.mem_cons_of_mem _ hparam)
      have hname := h (name, value) (List.mem_cons_self ..)
      rw [accepts, Dict.contains_eq_isSome] at hname
      obtain ⟨server, hserver⟩ := Option.isSome_iff_exists.mp hname
      rw [QueryMapping.pairs]
      simp only [hserver, hothers]
      cases queryText? value with
      | none => exact ⟨others, rfl⟩
      | some text => exact ⟨(server, text) :: others, rfl⟩

theorem transpose_eq_ok {params : Dict Value} {pairs : List (String × String)}
    (h : m.transpose params = .ok pairs) :
    pairs = params.entries.filterMap m.pair? ∧
      ∀ name value, params.get? name = some value → ∃ server, m.names.get? name = some server := by
  obtain ⟨hpairs, hknown⟩ := pairs_eq_ok h
  exact ⟨hpairs, fun name value hv => hknown (name, value) (Dict.mem_entries_iff.mpr hv)⟩

theorem exists_transpose_iff {params : Dict Value} : (∃ pairs, m.transpose params = .ok pairs) ↔
    ∀ name value, params.get? name = some value → m.accepts name = true := by
  constructor
  · rintro ⟨pairs, h⟩ name value hv
    obtain ⟨server, hserver⟩ := (transpose_eq_ok h).2 name value hv
    rw [accepts, Dict.contains_eq_isSome, hserver]
    rfl
  · intro h
    exact pairs_of_accepted fun param hparam => h param.1 param.2 (Dict.mem_entries_iff.mp hparam)

end QueryMapping

namespace Listing

variable {s : Schema} {params : Dict Value} {paginated : Bool} {l : Listing} {name : String} {v : Value}

theorem get?_queryParams : (queryParams s params).get? name = some v ↔
    params.get? name = some v ∧ s.uriField? name = none := by
  rw [queryParams, Dict.get?_filter_eq_some_iff, Option.isNone_iff_eq_none]

theorem get?_filterParams : (filterParams s params).get? name = some v ↔
    name ≠ "marker" ∧ name ≠ "limit" ∧ (queryParams s params).get? name = some v := by
  rw [filterParams, Dict.get?_erase, Dict.get?_erase]
  by_cases hm : "marker" = name
  · simp [hm]
  · by_cases hl : "limit" = name
    · simp [hl]
    · simp [hm, hl, Ne.symm hm, Ne.symm hl]

structure Reading where
  fill : String → String
  filters : List (String × String)
  limit : Option Nat
  marker : Option String

def reading (s : Schema) (params : Dict Value) : Reading where
  fill := s.slotText (uriParams s params)
  filters := (filterParams s params).entries.filterMap s.query.pair?
  limit := askedLimit? s params
  marker := askedMarker? s params

namespace Reading

def request (x : Reading) (s : Schema) : Request :=
  { s.bareRequest .get (s.pathWith x.fill) with
    params := x.filters ++ (x.limit.map fun n => ("limit", toString n)).toList ++
      (x.marker.map fun id => ("marker", id)).toList }

def Shows (x : Reading) (s : Schema) (name : String) (v : Value) : Prop :=
  match s.uriField? name with
  | some f => ∃ slot ∈ s.slots, s.slotKey slot = f.wire ∧ v.plainText? = some (x.fill slot)
  | none =>
      if name = "limit" then ∃ n, x.limit = some n
      else if name = "marker" then ∃ text, queryText? v = some text ∧ x.marker = some text
      else ∃ server text, s.query.names.get? name = some server ∧ queryText? v = some text ∧
        (server, text) ∈ x.filters

end Reading

-- Which parameters count: those of the path where it has a slot for them that no later one fills
-- with another text, whole numbers and their digits as page sizes, texts as markers, and all
-- others.
def Counts (s : Schema) (params : Dict Value) (name : String) (v : Value) : Prop :=
  match s.uriField? name with
  | some f =>
      (∃ slot ∈ s.slots, s.slotKey slot = f.wire) ∧
        ((uriParams s params).get? f.wire).bind Value.plainText? = v.plainText?
  | none => (name = "limit" → ∃ n, pageLimit? v = some n) ∧ (name = "marker" → ∃ text, v = .text text)

def Sole (s : Schema) (params : Dict Value) (name : String) (f : Field) : Prop :=
  ∀ other w g, params.get? other = some w → s.uriField? other = some g → g.wire = f.wire →
    other = name

def uriPair? (s : Schema) (param : String × Value) : Option (String × Value) :=
  (s.uriField? param.1).map fun f => (f.wire, param.2)

theorem get?_uriParams {wire : String} : (uriParams s params).get? wire =
    ((params.entries.filterMap (uriPair? s)).filter (·.1 == wire)).getLast?.map (·.2) :=
  Dict.get?_ofList

theorem get?_uriParams_of_sole {f : Field} (hv : params.get? name = some v)
    (hf : s.uriField? name = some f) (hsole : Sole s params name f) :
    (uriParams s params).get? f.wire = some v := by
  obtain ⟨earlier, later, hsplit, hearlier, hlater⟩ :=
    Dict.entries_split (Dict.mem_entries_iff.mpr hv)
  have hothers : ∀ part : List (String × Value),
      (∀ e ∈ part, e ∈ params.entries) → (∀ e ∈ part, e.1 ≠ name) →
      (part.filterMap (uriPair? s)).filter (·.1 == f.wire) = [] := by
    intro part hin hne
    rw [List.filter_eq_nil_iff]
    intro pair hpair hwire
    obtain ⟨⟨other, w⟩, he, hpair⟩ := List.mem_filterMap.mp hpair
    obtain ⟨g, hg, rfl⟩ := Option.map_eq_some_iff.mp hpair
    have hw : params.get? other = some w := Dict.mem_entries_iff.mp (hin _ he)
    exact hne _ he (hsole other w g hw hg (eq_of_beq hwire))
  have hbefore := hothers earlier (fun e he => by simp [hsplit, he]) hearlier
  have hafter := hothers later (fun e he => by simp [hsplit, he]) hlater
  have hown : uriPair? s (name, v) = some (f.wire, v) := by rw [uriPair?, hf]; rfl
  rw [get?_uriParams, hsplit, List.filterMap_append, List.filter_append, hbefore,
    List.filterMap_cons_some hown, List.filter_cons_of_pos (by simp), hafter]
  rfl

theorem shows_filter (hf : s.uriField? name = none) (hl : name ≠ "limit") (hm : name ≠ "marker")
    (hfilters : s.query.transpose (filterParams s params) = .ok l.filters)
    (hv : params.get? name = some v) (hn : v ≠ .null) : (reading s params).Shows s name v := by
  have hgiven : (filterParams s params).get? name = some v :=
    get?_filterParams.mpr ⟨hm, hl, get?_queryParams.mpr ⟨hv, hf⟩⟩
  obtain ⟨server, hserver⟩ := (QueryMapping.transpose_eq_ok hfilters).2 name v hgiven
  obtain ⟨text, htext⟩ := Option.ne_none_iff_exists'.mp fun ht => hn (queryText?_eq_none_iff.mp ht)
  have hpair : s.query.pair? (name, v) = some (server, text) := by
    simp [QueryMapping.pair?, hserver, htext]
  simp only [Reading.Shows, hf, if_neg hl, if_neg hm]
  exact ⟨server, text, hserver, htext,
    List.mem_filterMap.mpr ⟨(name, v), Dict.mem_entries_iff.mpr hgiven, hpair⟩⟩

theorem shows_iff_counts (hpath : s.collectionPath (uriParams s params) = .ok l.path)
    (hfilters : s.query.transpose (filterParams s params) = .ok l.filters)
    (hv : params.get? name = some v) (hn : v ≠ .null) :
    (reading s params).Shows s name v ↔ Counts s params name v := by
  cases hf : s.uriField? name with
  | some f =>
      have htext : ∀ slot ∈ s.slots, s.slotKey slot = f.wire →
          ((uriParams s params).get? f.wire).bind Value.plainText? =
            some ((reading s params).fill slot) := fun slot hslot hkey =>
        hkey ▸ Schema.text_of_fills (Schema.fills_of_collectionPath hpath hslot)
      simp only [Reading.Shows, Counts, hf]
      constructor
      · rintro ⟨slot, hslot, hkey, hshown⟩
        exact ⟨⟨slot, hslot, hkey⟩, by rw [hshown, htext slot hslot hkey]⟩
      · rintro ⟨⟨slot, hslot, hkey⟩, hlast⟩
        exact ⟨slot, hslot, hkey, by rw [← hlast, htext slot hslot hkey]⟩
  | none =>
      have hgiven : (queryParams s params).get? name = some v := get?_queryParams.mpr ⟨hv, hf⟩
      by_cases hl : name = "limit"
      · subst hl
        simp [Reading.Shows, Counts, hf, reading, askedLimit?, hgiven]
      · by_cases hm : name = "marker"
        · subst hm
          cases v <;>
            simp [Reading.Shows, Counts, hf, reading, askedMarker?, hgiven, Value.text?, queryText?]
        · have hcounts : Counts s params name v := by simp [Counts, hf, hl, hm]
          exact iff_of_true (shows_filter hf hl hm hfilters hv hn) hcounts

structure SendsParameters (s : Schema) (params : Dict Value) (l : Listing) : Prop where
  request : l.pageRequest = (reading s params).request s
  first : ∀ {σ : Type} (session : Session σ) (c : Conversation σ),
    (l.pull session c).2.sent = c.sent ++ [⟨c.clock, session.dress l.pageRequest⟩]
  limit : ∀ v, (queryParams s params).get? "limit" = some v →
    (reading s params).limit = pageLimit? v
  shows : ∀ name v, params.get? name = some v → v ≠ .null →
    ((reading s params).Shows s name v ↔ Counts s params name v)
  sole : ∀ name v f, params.get? name = some v → s.uriField? name = some f →
    Sole s params name f → (uriParams s params).get? f.wire = some v

structure Startable (s : Schema) (params : Dict Value) : Prop where
  permitted : s.permits .list = true
  located : ∀ slot ∈ s.slots, s.Fills (uriParams s params) slot
  known : ∀ name v, params.get? name = some v → s.uriField? name = none → name ≠ "limit" →
    name ≠ "marker" → s.query.accepts name = true

theorem known_iff : (∀ name v, params.get? name = some v → s.uriField? name = none →
      name ≠ "limit" → name ≠ "marker" → s.query.accepts name = true) ↔
    ∃ pairs, s.query.transpose (filterParams s params) = .ok pairs := by
  rw [QueryMapping.exists_transpose_iff]
  constructor
  · intro h name v hv
    obtain ⟨hm, hl, hq⟩ := get?_filterParams.mp hv
    obtain ⟨hgiven, hf⟩ := get?_queryParams.mp hq
    exact h name v hgiven hf hl hm
  · intro h name v hgiven hf hl hm
    exact h name v (get?_filterParams.mpr ⟨hm, hl, get?_queryParams.mpr ⟨hgiven, hf⟩⟩)

theorem exists_start_iff : (∃ l, start s params paginated = .ok l) ↔ Startable s params := by
  constructor
  · rintro ⟨l, h⟩
    obtain ⟨hp, hpath, hfilters, -⟩ := start_eq_ok_iff.mp h
    exact ⟨hp, fun slot hslot => Schema.fills_of_collectionPath hpath hslot,
      known_iff.mpr ⟨_, hfilters⟩⟩
  · rintro ⟨hp, hlocated, hknown⟩
    obtain ⟨path, hpath⟩ := Schema.collectionPath_of_fills hlocated
    obtain ⟨filters, hfilters⟩ := known_iff.mp hknown
    refine ⟨{ schema := s, path := path, filters := filters, uri := uriParams s params,
              paginated := paginated, limit := askedLimit? s params,
              marker := askedMarker? s params }, ?_⟩
    exact start_eq_ok_iff.mpr ⟨hp, hpath, hfilters, rfl⟩

theorem sendsParameters_of_start (h : start s params paginated = .ok l) :
    SendsParameters s params l := by
  obtain ⟨-, hpath, hfilters, hl⟩ := start_eq_ok_iff.mp h
  have hpop : l.pop? = none := by rw [hl]; rfl
  have hwants : l.wantsPage = true := by rw [hl]; rfl
  refine {
    request := ?_
    first := fun session c => by rw [asked_pull session c hpop hwants]; rfl
    limit := fun v hv => by rw [reading, askedLimit?, hv, Option.bind_some]
    shows := fun name v hv hn => shows_iff_counts hpath hfilters hv hn
    sole := fun name v f hv hf hsole => get?_uriParams_of_sole hv hf hsole }
  have hurl := Schema.collectionPath_eq_ok hpath
  have hpairs := (QueryMapping.transpose_eq_ok hfilters).1
  rw [pageRequest_eq, Reading.request, hl, hurl, hpairs]
  rfl

theorem list_sends_parameters (s : Schema) (params : Dict Value) (paginated : Bool) :
    ((∃ l, start s params paginated = .ok l) ↔ Startable s params) ∧
      ∀ l, start s params paginated = .ok l → SendsParameters s params l :=
  ⟨exists_start_iff, fun _ => sendsParameters_of_start⟩

def markedParams : Dict Value :=
  .ofList [("lab", .text "l 1"), ("limit", .text "2"), ("marker", .text "g0"), ("name", .text "a")]

def markedListing : Listing :=
  { schema := gadgets, path := "/labs/l%201/gadgets", filters := [("name", "a")]
    uri := .ofList [("lab", .text "l 1")], paginated := true, limit := some 2, marker := some "g0" }

theorem list_gadgets_sends_parameters :
    start gadgets markedParams true = .ok markedListing ∧ Startable gadgets markedParams ∧
    SendsParameters gadgets markedParams markedListing ∧
    markedListing.pageRequest =
      { method := .get, url := "/labs/l%201/gadgets", service := some "lab"
        params := [("name", "a"), ("limit", "2"), ("marker", "g0")] } :=
  have h : start gadgets markedParams true = .ok markedListing := by cbv
  have hall := list_sends_parameters gadgets markedParams true
  ⟨h, hall.1.mp ⟨_, h⟩, hall.2 _ h, rfl⟩

def strayParams : Dict Value :=
  .ofList [("lab", .text "l 1"), ("limit", .bool true), ("marker", .integer 5)]

def strayListing : Listing :=
  { schema := gadgets, path := "/labs/l%201/gadgets", filters := []
    uri := .ofList [("lab", .text "l 1")], paginated := true, limit := none, marker := none }

theorem stray_parameters_get_lost :
    start gadgets strayParams true = .ok strayListing ∧
    strayParams.get? "marker" = some (.integer 5) ∧ strayParams.get? "limit" = some (.bool true) ∧
    ∀ x : Reading, x.request gadgets = strayListing.pageRequest →
      ¬x.Shows gadgets "marker" (.integer 5) ∧ ¬x.Shows gadgets "limit" (.bool true) := by
  refine ⟨by cbv, by cbv, by cbv, fun x hx => ?_⟩
  have hparams : x.filters ++ (x.limit.map fun n => ("limit", toString n)).toList ++
      (x.marker.map fun id => ("marker", id)).toList = [] := congrArg Request.params hx
  obtain ⟨hrest, hmarker⟩ := List.append_eq_nil_iff.mp hparams
  obtain ⟨-, hlimit⟩ := List.append_eq_nil_iff.mp hrest
  have hnoMarker : x.marker = none := by simpa using hmarker
  have hnoLimit : x.limit = none := by simpa using hlimit
  have hfields : gadgets.uriField? "marker" = none ∧ gadgets.uriField? "limit" = none := by decide
  constructor
  · simp [Reading.Shows, hfields.1, hnoMarker]
  · simp [Reading.Shows, hfields.2, hnoLimit]

end Listing

end ControlPlane
