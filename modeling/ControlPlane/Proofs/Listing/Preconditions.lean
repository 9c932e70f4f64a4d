import Mathlib
import ControlPlane.Proofs.Data.Gathered
import ControlPlane.Proofs.Data.Value
import ControlPlane.Proofs.Listing.Parameters
import ControlPlane.Proofs.Text.Bytes

namespace ControlPlane

theorem joinWith_eq_intercalate (separator : String) (texts : List String) :
    joinWith separator texts = separator.intercalate texts := by
  induction texts with
  | nil => rfl
  | cons first rest ih =>
      cases rest with
      | nil => simp [joinWith]
      | cons second rest => rw [joinWith, ih, String.intercalate_cons_cons]

theorem queryTexts_eq (items : List Value) : queryTexts items = items.filterMap queryText? := by
  induction items with
  | nil => rfl
  | cons v rest ih =>
      rw [queryTexts]
      cases ht : queryText? v with
      | none => rw [List.filterMap_cons_none ht]; exact ih
      | some text => rw [List.filterMap_cons_some ht]; exact congrArg (text :: ·) ih

theorem queryText?_list (items : List Value) :
    queryText? (.list items) = some (",".intercalate (items.filterMap queryText?)) := by
  rw [queryText?, joinWith_eq_intercalate, queryTexts_eq]

theorem queryText?_other {v : Value} (h : ∀ items, v ≠ .list items) : queryText? v = v.plainText? := by
  cases v with
  | list items => exact absurd rfl (h items)
  | _ => rfl

namespace QueryMapping

variable {m : QueryMapping} {params : List (String × Value)}

def unknownParameter (name : String) : Error :=
  .invalidRequest ("invalid query parameter '" ++ name ++ "'")

theorem names_eq_none_iff {name : String} : m.names.get? name = none ↔ m.accepts name = false := by
  rw [accepts, Dict.contains_eq_isSome, Option.isSome_eq_false_iff, Option.isNone_iff_eq_none]

theorem pairs_eq_error {e : Error} (h : m.pairs params = .error e) :
    ∃ param ∈ params, m.accepts param.1 = false ∧ e = unknownParameter param.1 := by
  induction params with
  | nil => simp [QueryMapping.pairs] at h
  | cons param rest ih =>
      obtain ⟨name, value⟩ := param
      rw [QueryMapping.pairs] at h
      cases hn : m.names.get? name with
      | none =>
          rw [hn, Except.error.injEq] at h
          exact ⟨(name, value), List.mem_cons_self .., names_eq_none_iff.mp hn, h.symm⟩
      | some server =>
          cases hr : m.pairs rest with
          | error e' =>
              simp only [hn, hr, Except.error.injEq] at h
              obtain ⟨param, hm, hp⟩ := ih (h ▸ hr)
              exact ⟨param, List.mem_cons_of_mem _ hm, hp⟩
          | ok pairs =>
              simp only [hn, hr] at h
              cases ht : queryText? value <;> simp [ht] at h

def Sends (m : QueryMapping) (param : String × Value) (pair : String × String) : Prop :=
  m.names.get? param.1 = some pair.1 ∧ queryText? param.2 = some pair.2

theorem sends_iff {param : String × Value} {pair : String × String} :
    m.Sends param pair ↔ m.pair? param = some pair := by
  rw [Sends, pair?, Option.bind_eq_some_iff]
  constructor
  · rintro ⟨hserver, htext⟩
    exact ⟨pair.1, hserver, by rw [htext]; rfl⟩
  · rintro ⟨server, hserver, hpair⟩
    obtain ⟨text, htext, rfl⟩ := Option.map_eq_some_iff.mp hpair
    exact ⟨hserver, htext⟩

theorem forall₂_sends (h : ∀ param ∈ params, ∃ server, m.names.get? param.1 = some server) :
    List.Forall₂ m.Sends (params.filter (!·.2.isNull)) (params.filterMap m.pair?) := by
  induction params with
  | nil => exact .nil
  | cons param rest ih =>
      have hrest := ih fun param hm => h param (List.mem_cons_of_mem _ hm)
      obtain ⟨server, hserver⟩ := h param (List.mem_cons_self ..)
      cases ht : queryText? param.2 with
      | none =>
          have hnull : param.2 = .null := queryText?_eq_none_iff.mp ht
          rw [List.filter_cons_of_neg (by simp [hnull, Value.isNull]),
            List.filterMap_cons_none (by simp [pair?, ht])]
          exact hrest
      | some text =>
          have hvalue : param.2 ≠ .null := fun hn => by simp [queryText?_eq_none_iff.mpr hn] at ht
          have hpair : m.pair? param = some (server, text) := by simp [pair?, hserver, ht]
          rw [List.filter_cons_of_pos (by simp [Value.isNull_eq_false_iff.mpr hvalue]),
            List.filterMap_cons_some hpair]
          exact .cons (sends_iff.mpr hpair) hrest

end QueryMapping

namespace Listing

variable {s : Schema} {params : Dict Value} {paginated : Bool} {l : Listing} {slot : String}

def Placed (s : Schema) (params : Dict Value) (slot : String) : Prop :=
  ∃ name v, params.get? name = some v ∧ v ≠ .null ∧
    (∃ f, s.uriField? name = some f ∧ f.wire = s.slotKey slot) ∧
    ∀ other w f, params.get? other = some w → s.uriField? other = some f →
      f.wire = s.slotKey slot → other ≤ name

def Remains (s : Schema) (params : Dict Value) (name : String) (v : Value) : Prop :=
  params.get? name = some v ∧ s.uriField? name = none ∧ name ≠ "limit" ∧ name ≠ "marker"

theorem remains_iff {name : String} {v : Value} :
    Remains s params name v ↔ (filterParams s params).get? name = some v := by
  rw [get?_filterParams, get?_queryParams, Remains]
  constructor
  · rintro ⟨hv, hf, hl, hm⟩
    exact ⟨hm, hl, hv, hf⟩
  · rintro ⟨hm, hl, hv, hf⟩
    exact ⟨hv, hf, hl, hm⟩

theorem get?_uriParams_iff {key : String} {v : Value} :
    (uriParams s params).get? key = some v ↔
      ∃ name f, params.get? name = some v ∧ s.uriField? name = some f ∧ f.wire = key ∧
        ∀ other w g, params.get? other = some w → s.uriField? other = some g → g.wire = key →
          other ≤ name := by
  have hpick : ∀ name (w u : Value), uriPair? s (name, w) = some (key, u) ↔
      ∃ f, s.uriField? name = some f ∧ f.wire = key ∧ w = u := by
    intro name w u
    simp only [uriPair?, Option.map_eq_some_iff, Prod.mk.injEq]
  refine (@Dict.get?_gathered _ _ params key v (uriPair? s)).trans ?_
  simp only [hpick]
  constructor
  · rintro ⟨name, w, hw, ⟨f, hf, hkey, rfl⟩, hlast⟩
    exact ⟨name, f, hw, hf, hkey, fun other u g hu hg hwire => hlast other u hu u ⟨g, hg, hwire, rfl⟩⟩
  · rintro ⟨name, f, hv, hf, hkey, hlast⟩
    refine ⟨name, v, hv, ⟨f, hf, hkey, rfl⟩, ?_⟩
    rintro other u hu _ ⟨g, hg, hwire, -⟩
    exact hlast other u g hu hg hwire

theorem placed_iff : Placed s params slot ↔ s.Fills (uriParams s params) slot := by
  simp only [Schema.Fills, get?_uriParams_iff]
  constructor
  · rintro ⟨name, v, hv, hn, ⟨f, hf, hkey⟩, hlast⟩
    exact ⟨v, ⟨name, f, hv, hf, hkey, hlast⟩, hn⟩
  · rintro ⟨v, ⟨name, f, hv, hf, hkey, hlast⟩, hn⟩
    exact ⟨name, v, hv, hn, ⟨f, hf, hkey⟩, hlast⟩

theorem placed_of_sole {f : Field} {name : String} {v : Value} (hv : params.get? name = some v)
    (hf : s.uriField? name = some f) (hw : f.wire = s.slotKey slot)
    (hsole : ∀ other w g, params.get? other = some w → s.uriField? other = some g →
      g.wire = s.slotKey slot → other = name) : Placed s params slot ↔ v ≠ .null := by
  constructor
  · rintro ⟨other, w, hw, hn, ⟨g, hg, hkey⟩, -⟩
    obtain rfl := hsole other w g hw hg hkey
    rw [hv, Option.some.injEq] at hw
    rwa [hw]
  · intro hn
    refine ⟨name, v, hv, hn, ⟨f, hf, hw⟩, ?_⟩
    intro other w g hw hg hkey
    obtain rfl := hsole other w g hw hg hkey
    exact String.le_refl other

theorem start_of_not_permitted (h : ¬s.permits .list = true) :
    start s params paginated = .error (.methodNotSupported s.kind "list") := by
  rw [start, Schema.require, if_neg h]
  rfl

theorem start_of_permitted (hp : s.permits .list = true) :
    start s params paginated = (s.collectionPath (uriParams s params)).bind fun path =>
      (s.query.transpose (filterParams s params)).map fun filters =>
        { schema := s, path := path, filters := filters, uri := uriParams s params
          paginated := paginated, limit := askedLimit? s params, marker := askedMarker? s params } := by
  rw [start, Schema.require, if_pos hp]
  rfl

theorem start_of_not_placed (hp : s.permits .list = true) (h : ¬∀ slot ∈ s.slots, Placed s params slot) :
    ∃ slot ∈ s.slots, ¬Placed s params slot ∧
      start s params paginated = .error (s.unfilled slot) := by
  simp only [placed_iff] at h ⊢
  obtain ⟨slot, hm, hn, hpath⟩ := Schema.collectionPath_of_not_fills h
  exact ⟨slot, hm, hn, by rw [start_of_permitted hp, hpath]; rfl⟩

theorem start_of_unknown (hp : s.permits .list = true) (hplaced : ∀ slot ∈ s.slots, Placed s params slot)
    (h : ¬∀ name v, Remains s params name v → s.query.accepts name = true) :
    ∃ name v, Remains s params name v ∧ s.query.accepts name = false ∧
      start s params paginated = .error (QueryMapping.unknownParameter name) := by
  simp only [placed_iff] at hplaced
  obtain ⟨path, hpath⟩ := Schema.collectionPath_of_fills hplaced
  cases hq : s.query.transpose (filterParams s params) with
  | ok filters =>
      refine absurd (fun name v hv => ?_) h
      exact QueryMapping.exists_transpose_iff.mp ⟨filters, hq⟩ name v (remains_iff.mp hv)
  | error e =>
      obtain ⟨⟨name, v⟩, hm, hn, rfl⟩ := QueryMapping.pairs_eq_error hq
      refine ⟨name, v, remains_iff.mpr (Dict.mem_entries_iff.mp hm), hn, ?_⟩
      rw [start_of_permitted hp, hpath, hq]
      rfl

theorem startable_iff : Startable s params ↔ s.permits .list = true ∧
    (∀ slot ∈ s.slots, Placed s params slot) ∧
    ∀ name v, Remains s params name v → s.query.accepts name = true := by
  simp only [placed_iff]
  constructor
  · rintro ⟨hp, hl, hk⟩
    exact ⟨hp, hl, fun name v ⟨hv, hf, hlimit, hmarker⟩ => hk name v hv hf hlimit hmarker⟩
  · rintro ⟨hp, hl, hk⟩
    exact ⟨hp, hl, fun name v hv hf hlimit hmarker => hk name v ⟨hv, hf, hlimit, hmarker⟩⟩

structure Filters (s : Schema) (params : Dict Value) (l : Listing) : Prop where
  pairs : ∃ given : List (String × Value),
    (given.Pairwise fun a b => Text.bytes a.1 < Text.bytes b.1) ∧
    (∀ name v, (name, v) ∈ given ↔ Remains s params name v ∧ v ≠ .null) ∧
    List.Forall₂ s.query.Sends given l.filters
  pages : ∀ {σ β : Type} (session : Session σ) (c : Conversation σ)
    (step : β → Resource → β × Option Ending) (acc : β), ∃ requests : List Request,
      (l.scan session step acc c).2.sent.map Sent.request =
        c.sent.map Sent.request ++ requests.map session.dress ∧
      ∀ q ∈ requests, ∃ (limit : Option Nat) (marker : Option String),
        q.params = l.filters ++ (limit.map fun n => ("limit", toString n)).toList ++
          (marker.map fun id => ("marker", id)).toList

theorem filters_of_start (h : start s params paginated = .ok l) : Filters s params l := by
  obtain ⟨-, -, hfilters, hl⟩ := start_eq_ok_iff.mp h
  obtain ⟨hpairs, hknown⟩ := QueryMapping.pairs_eq_ok hfilters
  constructor
  · refine ⟨(filterParams s params).entries.filter (!·.2.isNull), ?_, ?_, ?_⟩
    · exact ((filterParams s params).ordered.filter _).imp Text.bytes_lt
    · intro name v
      rw [List.mem_filter, Dict.mem_entries_iff, ← remains_iff]
      cases v <;> simp [Value.isNull]
    · rw [hpairs]
      exact QueryMapping.forall₂_sends hknown
  · intro σ β session c step acc
    obtain ⟨turns, ending, hread⟩ := exists_readAs (s := session) (l := l) (c := c) _ rfl
      (by rw [hl]; rfl) (by rw [hl]; rfl)
    refine ⟨(turns.take (digestPages step acc (l.pagesOf turns)).2).map (Turn.request l), ?_,
      fun q hq => ?_⟩
    · rw [hread.scan step acc, Session.sent_askAll]
    · obtain ⟨t, -, rfl⟩ := List.mem_map.mp hq
      exact ⟨_, _, rfl⟩

structure Decides (s : Schema) (params : Dict Value) (paginated : Bool) : Prop where
  refused : ¬s.permits .list = true →
    start s params paginated = .error (.methodNotSupported s.kind "list")
  unplaced : s.permits .list = true → (¬∀ slot ∈ s.slots, Placed s params slot) →
    ∃ slot ∈ s.slots, ¬Placed s params slot ∧ start s params paginated =
      .error (.invalidRequest (s.kind ++ " requires '" ++ slot ++ "' to build its path"))
  unknown : s.permits .list = true → (∀ slot ∈ s.slots, Placed s params slot) →
    (¬∀ name v, Remains s params name v → s.query.accepts name = true) →
    ∃ name v, Remains s params name v ∧ s.query.accepts name = false ∧ start s params paginated =
      .error (.invalidRequest ("invalid query parameter '" ++ name ++ "'"))
  accepted : s.permits .list = true → (∀ slot ∈ s.slots, Placed s params slot) →
    (∀ name v, Remains s params name v → s.query.accepts name = true) →
    ∃ l, start s params paginated = .ok l ∧ Filters s params l
  alone : ∀ slot name v f, params.get? name = some v → s.uriField? name = some f →
    f.wire = s.slotKey slot → (∀ other w g, params.get? other = some w → s.uriField? other = some g →
      g.wire = s.slotKey slot → other = name) → (Placed s params slot ↔ v ≠ .null)
  silent : ∀ {σ : Type} (session : Session σ) (c : Conversation σ),
    (∀ e, start s params paginated = .error e →
      all session s params paginated c = (.error e, c)) ∧
    ∀ l, start s params paginated = .ok l → l.take session 0 c = (([], .stopped), c)
  texts : (∀ v, queryText? v = none ↔ v = .null) ∧
    (∀ items, queryText? (.list items) = some (",".intercalate (items.filterMap queryText?))) ∧
    ∀ v, (∀ items, v ≠ .list items) → queryText? v = v.plainText?

theorem list_decided_before_asking (s : Schema) (params : Dict Value) (paginated : Bool) :
    Decides s params paginated where
  refused := start_of_not_permitted
  unplaced := start_of_not_placed
  unknown := start_of_unknown
  accepted hp hplaced hknown := by
    obtain ⟨l, hl⟩ := exists_start_iff.mpr (startable_iff.mpr ⟨hp, hplaced, hknown⟩)
    exact ⟨l, hl, filters_of_start hl⟩
  alone _ _ _ _ := placed_of_sole
  silent session c := ⟨fun e h => by rw [all, h], fun _ _ => rfl⟩
  texts := ⟨fun _ => queryText?_eq_none_iff, queryText?_list, fun _ => queryText?_other⟩

def zoneDisks : Schema :=
  { kind := "lab.disk", service := "lab", basePath := "/zones/\x7bzone_id\x7d/disks"
    fields := FieldTable.base ++ [{ name := "zone_id", wire := "zone", location := .uri },
      { name := "zone_ref", wire := "zone", location := .uri }] }

def twiceZoned : Dict Value := .ofList [("zone_id", .text "z1"), ("zone_ref", .null)]

theorem later_null_hides_value :
    ¬∀ (s : Schema) (params : Dict Value) (paginated : Bool), s.permits .list = true →
      (∀ slot ∈ s.slots, ∃ name v f, params.get? name = some v ∧ v ≠ .null ∧
        s.uriField? name = some f ∧ f.wire = s.slotKey slot) →
      (∀ name v, Remains s params name v → s.query.accepts name = true) →
      ∃ l, start s params paginated = .ok l := by
  intro h
  have hslots : zoneDisks.slots = ["zone_id"] := by cbv
  have hfills : ∀ slot ∈ zoneDisks.slots, ∃ name v f, twiceZoned.get? name = some v ∧ v ≠ .null ∧
      zoneDisks.uriField? name = some f ∧ f.wire = zoneDisks.slotKey slot := by
    intro slot hslot
    rw [hslots, List.mem_singleton] at hslot
    subst hslot
    exact ⟨"zone_id", .text "z1", _, by cbv, by simp, by cbv, by cbv⟩
  have hnone : ∀ name v, Remains zoneDisks twiceZoned name v → zoneDisks.query.accepts name = true := by
    rintro name v ⟨hv, hf, -, -⟩
    have hentries : twiceZoned.entries = [("zone_id", .text "z1"), ("zone_ref", .null)] := by cbv
    have hmem := Dict.mem_entries_iff.mpr hv
    rw [hentries] at hmem
    rcases List.mem_cons.mp hmem with hname | hname
    · rw [(Prod.mk.inj hname).1] at hf
      exact absurd hf (by decide)
    · rw [(Prod.mk.inj (List.mem_singleton.mp hname)).1] at hf
      exact absurd hf (by decide)
  have hstart : start zoneDisks twiceZoned true = .error (zoneDisks.unfilled "zone_id") := by cbv
  obtain ⟨l, hl⟩ := h zoneDisks twiceZoned true (by decide) hfills hnone
  rw [hstart] at hl
  simp at hl

end Listing

end ControlPlane
