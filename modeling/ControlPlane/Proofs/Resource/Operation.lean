import ControlPlane.Proofs.Attribute.Filling
import ControlPlane.Proofs.Data.Dict
import ControlPlane.Proofs.Text.Percent
import ControlPlane.Proofs.Text.Trim
import ControlPlane.Resource.Exchange

namespace ControlPlane

def Schema.bareRequest (s : Schema) (method : Method) (url : String) : Request :=
  { method := method, url := url, service := some s.service, microversion := s.microversion
    retriable := s.retriable }

-- The slashes at the end of a collection's path do not count.
def IsItemUrl (collection id url : String) : Prop :=
  ∃ stem segment n, collection = stem ++ String.ofList (List.replicate n '/') ∧
    stem.toList.getLast? ≠ some '/' ∧ Text.Escapes id segment ∧ url = stem ++ "/" ++ segment

theorem isItemUrl_itemPath (collection id : String) :
    IsItemUrl collection id (itemPath collection id) := by
  obtain ⟨n, hn⟩ := Text.eq_dropEnd_append '/' collection.toList
  refine ⟨String.ofList (Text.dropEnd '/' collection.toList), Text.percentEncode id, n, ?_, ?_,
    Text.escapes_percentEncode id, rfl⟩
  · rw [← String.ofList_append, ← hn, String.ofList_toList]
  · rw [String.toList_ofList]
    exact Text.getLast?_dropEnd '/' _

namespace Resource

variable {σ : Type} {r : Resource} {op : Operation}

def needsId (r : Resource) : Operation → Bool
  | .create => r.id?.isSome
  | .fetch | .head | .commit | .delete => true

def requestTo (r : Resource) (op : Operation) (uri : String) : Request :=
  match op with
  | .create =>
      { r.schema.bareRequest (if r.id?.isSome then .put else .post) uri with
        headers := r.headerTexts, body := some (r.wrap true r.body.changes) }
  | .fetch => r.schema.bareRequest .get uri
  | .head => { r.schema.bareRequest .head uri with headers := .ofList [("Accept", "")] }
  | .delete => { r.schema.bareRequest .delete uri with headers := .ofList [("Accept", "")] }
  | .commit =>
      { r.schema.bareRequest (if r.schema.updateStyle = .put then .put else .patch) uri with
        headers := r.headerTexts, body := some r.updateBody }

def checked (r : Resource) (op : Operation) : Except Error Request := do
  r.schema.require op.capability
  let uri ← r.path (r.needsId op)
  .ok (r.requestTo op uri)

theorem map_checked {α : Type} (r : Resource) (op : Operation) (finish : Request → α) :
    (r.checked op).map finish = (r.schema.require op.capability).bind fun _ =>
      (r.path (r.needsId op)).map fun uri => finish (r.requestTo op uri) := by
  rw [checked]
  cases r.schema.require op.capability with
  | error e => rfl
  | ok u => cases r.path (r.needsId op) <;> rfl

theorem map_itemRequest {α : Type} (r : Resource) (c : Capability) (method : Method)
    (finish : Request → α) :
    (r.itemRequest c method).map finish = (r.schema.require c).bind fun _ =>
      (r.path true).map fun uri => finish (r.schema.request method uri) := by
  rw [itemRequest]
  cases r.schema.require c with
  | error e => rfl
  | ok u => cases r.path true <;> rfl

theorem createRequest_eq (r : Resource) : r.createRequest = r.checked .create := by
  rw [createRequest, checked, Operation.capability, needsId]
  cases r.schema.require .create with
  | error e => rfl
  | ok u =>
      change (r.draft r.id?.isSome true).bind _ = (r.path r.id?.isSome).bind _
      rw [draft]
      cases r.path r.id?.isSome <;> rfl

theorem updateMethod_eq (style : UpdateStyle) :
    updateMethod style = if style = .put then .put else .patch := by
  cases style <;> rfl

theorem commitRequest_eq (r : Resource) :
    r.commitRequest = if r.hasPendingUpdate then (r.checked .commit).map some else .ok none := by
  rw [commitRequest, updateMethod_eq, map_checked, Operation.capability, needsId]
  rfl

theorem plan_eq (r : Resource) (op : Operation) :
    r.plan op = if op = .commit ∧ r.hasPendingUpdate = false then .ok none
      else (r.checked op).map some := by
  cases op with
  | create => rw [plan, createRequest_eq, if_neg (by simp)]
  | fetch =>
      rw [plan, map_itemRequest, map_checked, if_neg (by simp)]
      rfl
  | head =>
      rw [plan, map_itemRequest, map_checked, if_neg (by simp)]
      rfl
  | delete =>
      rw [plan, map_itemRequest, map_checked, if_neg (by simp)]
      rfl
  | commit =>
      rw [plan, commitRequest_eq]
      cases r.hasPendingUpdate <;> simp

def Pending (r : Resource) : Prop :=
  r.header.dirty ≠ .empty ∨ ∃ key, r.body.dirty.contains key = true ∧ key ≠ r.idKey

def Located (r : Resource) : Prop := ∀ name ∈ r.schema.slots, r.schema.Fills r.uri.values name

def HasWork (r : Resource) (op : Operation) : Prop := op = .commit → r.Pending

structure Ready (r : Resource) (op : Operation) : Prop where
  work : r.HasWork op
  permitted : r.schema.permits op.capability = true
  located : r.Located
  named : op ≠ .create → r.id? ≠ none

def withoutId (r : Resource) : Error :=
  .invalidRequest (r.kind ++ " requires an id for this request")

theorem hasPendingUpdate_iff : r.hasPendingUpdate = true ↔ r.Pending := by
  simp only [hasPendingUpdate, Pending, Component.isDirty, Bool.or_eq_true, Bool.not_eq_true',
    Dict.isEmpty_eq_false_iff, List.any_eq_true, Dict.mem_keys_iff, bne_iff_ne]

theorem not_pending_of_clean (hbody : r.body.dirty = .empty) (hheader : r.header.dirty = .empty) :
    ¬r.Pending := by
  rintro (hdirty | ⟨key, hkey, -⟩)
  · exact hdirty hheader
  · rw [hbody] at hkey
    exact absurd hkey (by simp [Dict.contains_eq_isSome])

theorem plan_of_idle (h : ¬r.HasWork op) : r.plan op = .ok none := by
  obtain ⟨hc, hp⟩ := Classical.not_imp.mp h
  rw [plan_eq, if_pos ⟨hc, Bool.eq_false_iff.mpr fun ht => hp (hasPendingUpdate_iff.mp ht)⟩]

theorem plan_of_work (h : r.HasWork op) : r.plan op = (r.checked op).map some := by
  rw [plan_eq, if_neg]
  rintro ⟨hc, hp⟩
  rw [hasPendingUpdate_iff.mpr (h hc)] at hp
  exact absurd hp (by simp)

theorem checked_of_not_permitted (h : ¬r.schema.permits op.capability = true) :
    r.checked op = .error (r.schema.notSupported op.capability) := by
  rw [checked, Schema.require, if_neg h]
  rfl

theorem checked_of_permitted (h : r.schema.permits op.capability = true) :
    r.checked op = (r.path (r.needsId op)).map (r.requestTo op) := by
  rw [checked, Schema.require, if_pos h]
  change (r.path (r.needsId op)).bind _ = _
  cases r.path (r.needsId op) <;> rfl

theorem path_of_not_located (h : ¬r.Located) (requiresId : Bool) :
    ∃ name ∈ r.schema.slots, ¬r.schema.Fills r.uri.values name ∧
      r.path requiresId = .error (r.schema.unfilled name) := by
  obtain ⟨name, hm, hn, hp⟩ := Schema.collectionPath_of_not_fills h
  exact ⟨name, hm, hn, by rw [path, hp]; rfl⟩

theorem path_collection (r : Resource) : r.path false = r.schema.collectionPath r.uri.values := by
  rw [path]
  cases r.schema.collectionPath r.uri.values <;> rfl

theorem path_true_eq_ok {uri : String} (h : r.path true = .ok uri) : ∃ collection id,
    r.schema.collectionPath r.uri.values = .ok collection ∧ r.id? = some id ∧
      uri = itemPath collection id := by
  rw [path] at h
  cases hc : r.schema.collectionPath r.uri.values with
  | error e => simp [hc, bind, Except.bind] at h
  | ok collection =>
      cases hid : r.id? with
      | none => simp [hc, hid, bind, Except.bind] at h
      | some id =>
          simp only [hc, hid, bind, Except.bind, if_true, Except.ok.injEq] at h
          exact ⟨collection, id, rfl, rfl, h.symm⟩

-- The path of a resource's own, as a caller would spell it.
structure FoundAt (r : Resource) (url : String) : Prop where
  path : r.path true = .ok url
  item : ∃ collection id, r.schema.collectionPath r.uri.values = .ok collection ∧
    r.id? = some id ∧ IsItemUrl collection id url

theorem foundAt_of_path {uri : String} (h : r.path true = .ok uri) : r.FoundAt uri := by
  obtain ⟨collection, id, hcollection, hid, rfl⟩ := path_true_eq_ok h
  exact ⟨h, collection, id, hcollection, hid, isItemUrl_itemPath collection id⟩

theorem path_of_located (h : r.Located) : ∃ collection,
    r.path false = .ok collection ∧
    (r.id? = none → r.path true = .error r.withoutId) ∧
    ∀ id, r.id? = some id → r.path true = .ok (itemPath collection id) := by
  obtain ⟨collection, hc⟩ := Schema.collectionPath_of_fills h
  refine ⟨collection, ?_, ?_, ?_⟩
  · rw [path, hc]
    rfl
  · intro hid
    rw [path, hc, hid]
    rfl
  · intro id hid
    rw [path, hc, hid]
    rfl

theorem plan_of_not_located (hw : r.HasWork op) (hp : r.schema.permits op.capability = true)
    (h : ¬r.Located) :
    ∃ name ∈ r.schema.slots, ¬r.schema.Fills r.uri.values name ∧
      r.plan op = .error (r.schema.unfilled name) := by
  obtain ⟨name, hm, hn, hpath⟩ := path_of_not_located h (r.needsId op)
  exact ⟨name, hm, hn, by rw [plan_of_work hw, checked_of_permitted hp, hpath]; rfl⟩

theorem needsId_of_ne_create (h : op ≠ .create) : r.needsId op = true := by
  cases op with
  | create => exact absurd rfl h
  | fetch | head | commit | delete => rfl

theorem plan_of_not_named (hw : r.HasWork op) (hp : r.schema.permits op.capability = true)
    (hl : r.Located) (hop : op ≠ .create) (hid : r.id? = none) :
    r.plan op = .error r.withoutId := by
  obtain ⟨collection, -, hnone, -⟩ := path_of_located hl
  rw [plan_of_work hw, checked_of_permitted hp, needsId_of_ne_create hop, hnone hid]
  rfl

theorem path_of_ready (h : r.Ready op) : ∃ uri, r.path (r.needsId op) = .ok uri := by
  obtain ⟨collection, hcollection, -, hitem⟩ := path_of_located h.located
  by_cases hop : op = .create
  · subst hop
    rw [needsId]
    cases hid : r.id? with
    | none => exact ⟨collection, hcollection⟩
    | some id => exact ⟨_, hitem id hid⟩
  · obtain ⟨id, hid⟩ := Option.ne_none_iff_exists'.mp (h.named hop)
    exact ⟨_, by rw [needsId_of_ne_create hop, hitem id hid]⟩

theorem plan_of_ready (h : r.Ready op) {uri : String} (hu : r.path (r.needsId op) = .ok uri) :
    r.plan op = .ok (some (r.requestTo op uri)) := by
  rw [plan_of_work h.work, checked_of_permitted h.permitted, hu]
  rfl

theorem plan_of_not_ready (h : ¬r.Ready op) : r.plan op = .ok none ∨ ∃ e, r.plan op = .error e := by
  by_cases hw : r.HasWork op
  · refine .inr ?_
    by_cases hp : r.schema.permits op.capability = true
    · by_cases hl : r.Located
      · -- what is left to be missing is the id
        have hn : ¬(op ≠ .create → r.id? ≠ none) := fun hn => h ⟨hw, hp, hl, hn⟩
        obtain ⟨hop, hid⟩ := Classical.not_imp.mp hn
        exact ⟨_, plan_of_not_named hw hp hl hop (Classical.not_not.mp hid)⟩
      · obtain ⟨name, -, -, he⟩ := plan_of_not_located hw hp hl
        exact ⟨_, he⟩
    · exact ⟨_, by rw [plan_of_work hw, checked_of_not_permitted hp]; rfl⟩
  · exact .inl (plan_of_idle hw)

theorem plan_eq_ok_none_iff : r.plan op = .ok none ↔ ¬r.HasWork op := by
  refine ⟨fun h hw => ?_, plan_of_idle⟩
  rw [plan_of_work hw] at h
  cases hc : r.checked op <;> simp [hc, Except.map] at h

theorem plan_eq_ok_some {q : Request} (h : r.plan op = .ok (some q)) :
    r.Ready op ∧ ∃ uri, r.path (r.needsId op) = .ok uri ∧ q = r.requestTo op uri := by
  have hr : r.Ready op := by
    apply Classical.byContradiction
    intro hn
    rcases plan_of_not_ready hn with hp | ⟨e, hp⟩ <;> simp [hp] at h
  obtain ⟨uri, hu⟩ := path_of_ready hr
  rw [plan_of_ready hr hu, Except.ok.injEq, Option.some.injEq] at h
  exact ⟨hr, uri, hu, h.symm⟩

variable {s : Session σ} {c : Conversation σ}

theorem perform_of_some {q : Request} (h : r.plan op = .ok (some q)) :
    r.perform s op c = ((s.request q c).1.map (r.absorb op), (s.request q c).2) := by
  rw [perform, h]
  dsimp only
  rcases s.request q c with ⟨_ | _, _⟩ <;> rfl

theorem perform_of_ready (h : r.Ready op) {uri : String} (hu : r.path (r.needsId op) = .ok uri) :
    (r.perform s op c).2 = (s.request (r.requestTo op uri) c).2 := by
  rw [perform_of_some (plan_of_ready h hu)]

theorem perform_fetch (hp : r.schema.permits .fetch = true) {uri : String}
    (hu : r.path true = .ok uri) : r.perform s .fetch c =
      ((s.request (r.schema.bareRequest .get uri) c).1.map (r.absorb .fetch),
        (s.request (r.schema.bareRequest .get uri) c).2) := by
  have hwork : r.HasWork .fetch := nofun
  have hplan : r.plan .fetch = .ok (some (r.schema.bareRequest .get uri)) := by
    rw [plan_of_work hwork, checked_of_permitted hp, needsId, hu]
    rfl
  exact perform_of_some hplan

theorem settle_of_error {e : Error} (h : r.plan op = .error e) :
    r.settle s op c = ((.error e, r), c) := by
  rw [settle, perform, h]

theorem settle_of_none (h : r.plan op = .ok none) : r.settle s op c = ((.ok (), r), c) := by
  rw [settle, perform, h]

theorem settle_of_some {q : Request} (h : r.plan op = .ok (some q)) :
    r.settle s op c = (match (s.request q c).1 with
      | .ok response => (.ok (), r.absorb op response)
      | .error e => (.error e, r), (s.request q c).2) := by
  rw [settle, perform_of_some h]
  rcases s.request q c with ⟨_ | _, _⟩ <;> rfl

theorem perform_of_not_ready (h : ¬r.Ready op) : (r.perform s op c).2 = c := by
  rw [perform]
  rcases plan_of_not_ready h with hp | ⟨e, hp⟩ <;> rw [hp]

theorem settle_error_unchanged {e : Error} (h : (r.settle s op c).1.1 = .error e) :
    (r.settle s op c).1.2 = r := by
  rw [settle] at h ⊢
  rcases hp : r.perform s op c with ⟨_ | _, _⟩
  · rfl
  · simp [hp] at h

theorem dirty_absorbBody (r : Resource) (response : Response) :
    (r.absorbBody response).dirty = .empty := by
  rw [absorbBody]
  split <;> rfl

structure Atomic (s : Session σ) (op : Operation) (r : Resource) (c : Conversation σ) : Prop where
  unchanged : ∀ e, (r.settle s op c).1.1 = .error e → (r.settle s op c).1.2 = r
  idle : op = .commit → ¬r.Pending → r.settle s op c = ((.ok (), r), c)
  refused : r.HasWork op → ¬r.schema.permits op.capability = true →
    r.settle s op c = ((.error (.methodNotSupported r.kind op.capability.name), r), c)
  unlocated : r.HasWork op → r.schema.permits op.capability = true → ¬r.Located →
    ∃ name ∈ r.schema.slots, ¬r.schema.Fills r.uri.values name ∧ r.settle s op c =
      ((.error (.invalidRequest (r.kind ++ " requires '" ++ name ++ "' to build its path")), r), c)
  unnamed : r.HasWork op → r.schema.permits op.capability = true → r.Located →
    op ≠ .create → r.id? = none → r.settle s op c =
      ((.error (.invalidRequest (r.kind ++ " requires an id for this request")), r), c)
  asked : r.Ready op → ∃ uri, r.path (r.needsId op) = .ok uri ∧
    (r.settle s op c).2 = (s.request (r.requestTo op uri) c).2 ∧
    (r.settle s op c).2.sent = c.sent ++ [⟨c.clock, s.dress (r.requestTo op uri)⟩] ∧
    (∀ e, (s.request (r.requestTo op uri) c).1 = .error e →
      (r.settle s op c).1 = (.error e, r)) ∧
    ∀ response, (s.request (r.requestTo op uri) c).1 = .ok response →
      (r.settle s op c).1 = (.ok (), r.absorb op response)
  asked_iff : (r.settle s op c).2.sent ≠ c.sent ↔ r.Ready op

theorem settle_of_ready (h : r.Ready op) : ∃ uri, r.path (r.needsId op) = .ok uri ∧
    (r.settle s op c).2 = (s.request (r.requestTo op uri) c).2 ∧
    (r.settle s op c).2.sent = c.sent ++ [⟨c.clock, s.dress (r.requestTo op uri)⟩] ∧
    (∀ e, (s.request (r.requestTo op uri) c).1 = .error e →
      (r.settle s op c).1 = (.error e, r)) ∧
    ∀ response, (s.request (r.requestTo op uri) c).1 = .ok response →
      (r.settle s op c).1 = (.ok (), r.absorb op response) := by
  obtain ⟨uri, hu⟩ := path_of_ready h
  have hs := settle_of_some (s := s) (c := c) (plan_of_ready h hu)
  refine ⟨uri, hu, by rw [hs], by rw [hs]; rfl, ?_, ?_⟩
  · intro e he
    rw [hs, he]
  · intro response hr
    rw [hs, hr]

theorem sent_settle_of_not_ready (h : ¬r.Ready op) : (r.settle s op c).2.sent = c.sent := by
  rcases plan_of_not_ready h with hp | ⟨e, hp⟩
  · rw [settle_of_none hp]
  · rw [settle_of_error hp]

theorem settle_atomic (s : Session σ) (op : Operation) (r : Resource) (c : Conversation σ) :
    r.Atomic s op c where
  unchanged _ := settle_error_unchanged
  idle hop hp := settle_of_none (plan_of_idle fun hw => hp (hw hop))
  refused hw hp := settle_of_error (by rw [plan_of_work hw, checked_of_not_permitted hp]; rfl)
  unlocated hw hp hl := by
    obtain ⟨name, hm, hn, he⟩ := plan_of_not_located hw hp hl
    exact ⟨name, hm, hn, settle_of_error he⟩
  unnamed hw hp hl hop hid := settle_of_error (plan_of_not_named hw hp hl hop hid)
  asked := settle_of_ready
  asked_iff := by
    constructor
    · intro hsent
      exact Classical.not_not.mp fun h => hsent (sent_settle_of_not_ready h)
    · intro h hsent
      obtain ⟨uri, -, -, hlast, -, -⟩ := settle_of_ready (s := s) (c := c) h
      rw [hlast] at hsent
      simp at hsent

end Resource

end ControlPlane
