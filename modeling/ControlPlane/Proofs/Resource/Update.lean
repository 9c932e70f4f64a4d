import Mathlib
import ControlPlane.Proofs.Attribute.Delta
import ControlPlane.Proofs.Resource.Operation
import ControlPlane.Proofs.Text.Bytes

namespace ControlPlane.Resource

variable {σ : Type} {r : Resource} {key : String}

def Updates (r : Resource) (key : String) : Prop :=
  r.body.dirty.contains key = true ∧ key ≠ r.idKey

theorem get?_updates : r.updates.get? key =
    if key = r.idKey then none
    else if r.body.dirty.contains key then some ((r.body.get? key).getD .null) else none := by
  rw [updates, Dict.get?_erase, Component.get?_changes]
  by_cases h : key = r.idKey
  · rw [if_pos h, if_pos h.symm]
  · rw [if_neg h, if_neg (Ne.symm h)]

theorem updates_iff : r.Updates key ↔ ∃ value, (key, value) ∈ r.updates.entries := by
  simp only [Dict.mem_entries_iff, get?_updates, Updates]
  by_cases h : key = r.idKey
  · simp [h]
  · by_cases hd : r.body.dirty.contains key <;> simp [h, hd]

theorem mem_keys_updates : key ∈ r.updates.keys ↔ r.Updates key := by
  rw [updates_iff, Dict.keys, List.mem_map]
  constructor
  · rintro ⟨⟨k, v⟩, hm, rfl⟩
    exact ⟨v, hm⟩
  · rintro ⟨v, hm⟩
    exact ⟨(key, v), hm, rfl⟩

theorem value_of_updates {value : Value} (h : (key, value) ∈ r.updates.entries) :
    value = (r.body.get? key).getD .null := by
  have hu : r.Updates key := updates_iff.mpr ⟨value, h⟩
  rw [Dict.mem_entries_iff, get?_updates, if_neg hu.2, if_pos hu.1, Option.some.injEq] at h
  exact h.symm

def memberAt (r : Resource) (key : String) : String × Value := (key, (r.body.get? key).getD .null)

def stepAt (r : Resource) (key : String) : Value :=
  match r.body.get? key with
  | some value => .record [("op", .text "add"), ("path", .text ("/" ++ key)), ("value", value)]
  | none => .record [("op", .text "remove"), ("path", .text ("/" ++ key))]

def envelope (r : Resource) (fields : List (String × Value)) : Value :=
  match r.schema.resourceKey with
  | some name => .record [(name, .record fields)]
  | none => .record fields

def updateAbout (r : Resource) (keys : List String) : UpdateStyle → Value
  | .put | .patchMerge => r.envelope (keys.map r.memberAt)
  | .patchJson => .list (keys.map r.stepAt)

theorem updates_entries (r : Resource) : r.updates.entries = r.updates.keys.map r.memberAt := by
  have h : ∀ e ∈ r.updates.entries, r.memberAt e.1 = e := by
    rintro ⟨k, v⟩ he
    rw [memberAt, ← value_of_updates he]
  rw [Dict.keys, List.map_map]
  exact (List.map_id _).symm.trans (List.map_congr_left fun e he => (h e he).symm)

theorem patchValue_patchSteps (r : Resource) :
    patchValue r.patchSteps = .list (r.updates.keys.map r.stepAt) := by
  rw [patchValue, patchSteps, Dict.keys, List.map_map, List.map_map]
  refine congrArg Value.list (List.map_congr_left fun e he => ?_)
  obtain ⟨k, v⟩ := e
  have hu : r.Updates k := updates_iff.mpr ⟨v, he⟩
  have hv := value_of_updates he
  change (patchStep r.body.removedKeys (k, v)).toValue = r.stepAt k
  rw [patchStep, stepAt]
  cases hcur : r.body.get? k with
  | none =>
      have hm : k ∈ r.body.removedKeys := Component.mem_removedKeys.mpr ⟨hu.1, hcur⟩
      simp [hm, PatchStep.toValue]
  | some value =>
      have hm : k ∉ r.body.removedKeys := fun hm => by
        rw [(Component.mem_removedKeys.mp hm).2] at hcur
        exact absurd hcur (by simp)
      simp [hm, hv, hcur, PatchStep.toValue]

theorem wrap_updates (r : Resource) :
    r.wrap true r.updates = r.envelope (r.updates.keys.map r.memberAt) := by
  rw [wrap, envelope, ← updates_entries]
  cases r.schema.resourceKey <;> rfl

theorem updateBody_eq (r : Resource) :
    r.updateBody = r.updateAbout r.updates.keys r.schema.updateStyle := by
  rw [updateBody]
  cases r.schema.updateStyle with
  | put => exact wrap_updates r
  | patchMerge => exact wrap_updates r
  | patchJson => exact patchValue_patchSteps r

def headerText : Option Value → String
  | none | some .null => ""
  | some (.text text) => text
  | some v => Json.compact v

theorem headerText_some (v : Value) : headerText (some v) = v.plainText?.getD "" := by
  cases v <;> rfl

def headerUpdate (r : Resource) (name : String) : Option String :=
  if r.header.dirty.contains name then some (headerText (r.header.get? name)) else none

theorem get?_headerTexts (r : Resource) (name : String) :
    r.headerTexts.get? name = r.headerUpdate name := by
  rw [headerTexts, headerUpdate, Dict.get?_map, Component.get?_changes]
  by_cases hd : r.header.dirty.contains name = true
  · simp only [hd, if_true, Option.map_some, Option.some.injEq]
    rcases r.header.get? name with _ | v
    · rfl
    · exact (headerText_some v).symm
  · simp [hd]

theorem get?_headers_of_plan {op : Operation} {q : Request} (hop : op = .create ∨ op = .commit)
    (hplan : r.plan op = .ok (some q)) (name : String) : q.headers.get? name = r.headerUpdate name := by
  obtain ⟨-, uri, -, rfl⟩ := plan_eq_ok_some hplan
  rcases hop with rfl | rfl <;> exact get?_headerTexts r name

def inStyle (r : Resource) (style : UpdateStyle) : Resource :=
  { r with schema := { r.schema with updateStyle := style } }

theorem fillPieces_inStyle (r : Resource) (style : UpdateStyle) (pieces : List PathPiece) :
    (r.inStyle style).schema.fillPieces r.uri.values pieces =
      r.schema.fillPieces r.uri.values pieces := by
  induction pieces with
  | nil => rfl
  | cons piece rest ih =>
      have hpiece : (r.inStyle style).schema.fillPiece r.uri.values piece =
          r.schema.fillPiece r.uri.values piece := by
        cases piece <;> rfl
      rw [Schema.fillPieces, Schema.fillPieces, ih, hpiece]

theorem path_inStyle (r : Resource) (style : UpdateStyle) (requiresId : Bool) :
    (r.inStyle style).path requiresId = r.path requiresId := by
  have hc : (r.inStyle style).schema.collectionPath r.uri.values =
      r.schema.collectionPath r.uri.values := by
    rw [Schema.collectionPath, Schema.collectionPath]
    exact congrArg _ (fillPieces_inStyle r style _)
  change (do
    let collection ← (r.inStyle style).schema.collectionPath r.uri.values
    _) = _
  rw [hc]
  rfl

theorem ready_inStyle (hp : r.schema.permits .commit = true) (hl : r.Located) (hid : r.id? ≠ none)
    (hw : r.Pending) (style : UpdateStyle) : (r.inStyle style).Ready .commit where
  work _ := hw
  permitted := hp
  located := hl
  named _ := hid

structure SendsUpdate (s : Session σ) (c : Conversation σ) (r : Resource) (style : UpdateStyle)
    (keys : List String) (url : String) : Prop where
  sent : r.header.dirty ≠ .empty ∨ keys ≠ [] → ∃ headers : Dict String,
    ((r.inStyle style).settle s .commit c).2.sent = c.sent ++ [⟨c.clock, s.dress
      { r.schema.bareRequest (if style = .put then .put else .patch) url with
        headers := headers, body := some (r.updateAbout keys style) }⟩] ∧
    ∀ name, headers.get? name =
      if r.header.dirty.contains name then some (headerText (r.header.get? name)) else none
  silent : ((r.inStyle style).settle s .commit c).2.sent = c.sent ↔
    r.header.dirty = .empty ∧ keys = []

theorem pending_iff_keys : r.Pending ↔ r.header.dirty ≠ .empty ∨ r.updates.keys ≠ [] := by
  have hkeys : r.updates.keys ≠ [] ↔ ∃ key, r.Updates key := by
    simp [List.eq_nil_iff_forall_not_mem, mem_keys_updates]
  rw [hkeys]
  rfl

theorem sendsUpdate_of_path (s : Session σ) (c : Conversation σ) (style : UpdateStyle)
    (hp : r.schema.permits .commit = true) (hl : r.Located) (hid : r.id? ≠ none) {url : String}
    (hu : r.path true = .ok url) : r.SendsUpdate s c style r.updates.keys url := by
  have hready := fun hw => ready_inStyle hp hl hid hw style
  have hsent : r.Pending → ((r.inStyle style).settle s .commit c).2.sent =
      c.sent ++ [⟨c.clock, s.dress ((r.inStyle style).requestTo .commit url)⟩] := by
    intro hw
    obtain ⟨uri, huri, -, hs, -, -⟩ := settle_of_ready (s := s) (c := c) (hready hw)
    have hpath : (r.inStyle style).path true = .ok url := (path_inStyle r style true).trans hu
    have : uri = url := Except.ok.inj (huri.symm.trans hpath)
    rw [hs, this]
  constructor
  · intro hw
    refine ⟨r.headerTexts, ?_, get?_headerTexts r⟩
    rw [hsent (pending_iff_keys.mpr hw), requestTo, updateBody_eq (r.inStyle style)]
    rfl
  · rw [← not_iff_not, not_and_or, ← ne_eq, ← ne_eq, ← ne_eq, ← pending_iff_keys]
    constructor
    · intro hs
      exact Classical.byContradiction fun hw =>
        hs (sent_settle_of_not_ready fun h => hw (h.work rfl))
    · intro hw
      rw [hsent hw]
      simp

theorem commit_same_in_every_style (s : Session σ) (c : Conversation σ) {f : Field} {id : String}
    (hf : r.schema.field? "id" = some f) (hp : r.schema.permits .commit = true) (hl : r.Located)
    (hid : r.id? = some id) :
    ∃ keys collection url, r.schema.collectionPath r.uri.values = .ok collection ∧
      IsItemUrl collection id url ∧
      (keys.Pairwise fun a b => Text.bytes a < Text.bytes b) ∧
      (∀ key, key ∈ keys ↔ r.body.dirty.contains key = true ∧ key ≠ f.wire) ∧
      ∀ style, r.SendsUpdate s c style keys url := by
  obtain ⟨collection, hcollection, -, hitem⟩ := path_of_located hl
  rw [path_collection] at hcollection
  have hkey : r.idKey = f.wire := by rw [idKey, hf]
  refine ⟨r.updates.keys, collection, itemPath collection id, hcollection,
    isItemUrl_itemPath collection id, ?_, fun key => ?_, fun style => ?_⟩
  · exact Dict.keys_ordered.imp Text.bytes_lt
  · rw [mem_keys_updates, Updates, hkey]
  · exact sendsUpdate_of_path s c style hp hl (by rw [hid]; simp) (hitem id hid)

def cabinet : Schema :=
  { kind := "lab.cabinet", service := "lab", basePath := "/rooms/{room}/cabinets"
    resourceKey := some "cabinet"
    fields := FieldTable.base ++
      [{ name := "size" }, { name := "etag", wire := "ETag", location := .header },
        { name := "room", location := .uri }] }

def changedCabinet : Resource :=
  { schema := cabinet
    body :=
      { values := .ofList [("id", .text "c1"), ("name", .text "tall")]
        dirty := .ofList [("id", ()), ("name", ()), ("size", ())] }
    header := { values := .ofList [("ETag", .null)], dirty := .ofList [("ETag", ())] }
    uri := { values := .ofList [("room", .text "r 1")] } }

theorem located_changedCabinet : changedCabinet.Located := by
  have hslots : changedCabinet.schema.slots = ["room"] := by cbv
  intro name hn
  rw [hslots, List.mem_singleton] at hn
  subst hn
  exact ⟨.text "r 1", by cbv, by simp⟩

def accepting : Conversation (List Reply) := { peer := [.success { status := 200 }] }

def cabinetUpdate : UpdateStyle → Request
  | .put =>
      { method := .put, url := "/rooms/r%201/cabinets/c1", service := some "lab"
        headers := .ofList [("ETag", "")]
        body := some (.record [("cabinet", .record [("name", .text "tall"), ("size", .null)])]) }
  | .patchMerge =>
      { method := .patch, url := "/rooms/r%201/cabinets/c1", service := some "lab"
        headers := .ofList [("ETag", "")]
        body := some (.record [("cabinet", .record [("name", .text "tall"), ("size", .null)])]) }
  | .patchJson =>
      { method := .patch, url := "/rooms/r%201/cabinets/c1", service := some "lab"
        headers := .ofList [("ETag", "")]
        body := some (.list
          [.record [("op", .text "add"), ("path", .text "/name"), ("value", .text "tall")],
           .record [("op", .text "remove"), ("path", .text "/size")]]) }

theorem commit_changedCabinet_in_every_style :
    changedCabinet.schema.field? "id" = some { name := "id" } ∧
    changedCabinet.schema.permits .commit = true ∧ changedCabinet.Located ∧
    changedCabinet.id? = some "c1" ∧
    (∃ keys collection url,
      changedCabinet.schema.collectionPath changedCabinet.uri.values = .ok collection ∧
      IsItemUrl collection "c1" url ∧
      (keys.Pairwise fun a b => Text.bytes a < Text.bytes b) ∧
      (∀ key, key ∈ keys ↔ changedCabinet.body.dirty.contains key = true ∧ key ≠ "id") ∧
      ∀ style, changedCabinet.SendsUpdate Session.replay accepting style keys url) ∧
    ∀ style, ((changedCabinet.inStyle style).settle .replay .commit accepting).2.sent =
      [⟨0, cabinetUpdate style⟩] :=
  have hf : changedCabinet.schema.field? "id" = some { name := "id" } := by cbv
  have hp : changedCabinet.schema.permits .commit = true := by cbv
  have hid : changedCabinet.id? = some "c1" := by cbv
  ⟨hf, hp, located_changedCabinet, hid,
    commit_same_in_every_style Session.replay accepting hf hp located_changedCabinet hid,
    fun style => by cases style <;> decide +kernel⟩

end ControlPlane.Resource
