import ControlPlane.Patch
import ControlPlane.Resource

namespace ControlPlane

inductive Operation where
  | create
  | fetch
  | head
  | commit
  | delete
  deriving DecidableEq, Repr

def Operation.capability : Operation → Capability
  | .create => .create
  | .fetch => .fetch
  | .head => .head
  | .commit => .commit
  | .delete => .delete

def Schema.notSupported (s : Schema) (c : Capability) : Error := .methodNotSupported s.kind c.name

def Schema.require (s : Schema) (c : Capability) : Except Error Unit :=
  if s.permits c then .ok () else .error (s.notSupported c)

def Schema.request (s : Schema) (method : Method) (url : String) : Request :=
  { method := method, url := url, service := some s.service, microversion := s.microversion
    retriable := s.retriable }

structure Draft where
  uri : String
  body : Value
  headers : Dict String
  deriving DecidableEq, Repr

def itemPath (collection id : String) : String :=
  String.ofList (Text.dropEnd '/' collection.toList) ++ "/" ++ Text.percentEncode id

abbrev Settled := Except Error Unit × Resource

namespace Resource

def wrap (r : Resource) (wrapped : Bool) (fields : Dict Value) : Value :=
  match r.schema.resourceKey with
  | some key => if wrapped then .record [(key, .ofDict fields)] else .ofDict fields
  | none => .ofDict fields

def headerTexts (r : Resource) : Dict String :=
  r.header.changes.map fun _ v => v.plainText?.getD ""

def path (r : Resource) (requiresId : Bool) : Except Error String := do
  let collection ← r.schema.collectionPath r.uri.values
  if requiresId then
    match r.id? with
    | some id => .ok (itemPath collection id)
    | none => .error (.invalidRequest (r.kind ++ " requires an id for this request"))
  else .ok collection

def draft (r : Resource) (requiresId wrapped : Bool) : Except Error Draft := do
  let uri ← r.path requiresId
  .ok ⟨uri, r.wrap wrapped r.body.changes, r.headerTexts⟩

def hasPendingUpdate (r : Resource) : Bool :=
  r.header.isDirty || r.body.dirty.keys.any (· != r.idKey)

def updates (r : Resource) : Dict Value := r.body.changes.erase r.idKey

def patchStep (removed : List String) (change : String × Value) : PatchStep :=
  let path := "/" ++ change.1
  if removed.contains change.1 then .remove path else .add path change.2

def patchSteps (r : Resource) : List PatchStep :=
  r.updates.entries.map (patchStep r.body.removedKeys)

def createRequest (r : Resource) : Except Error Request := do
  r.schema.require .create
  let known := r.id?.isSome
  let draft ← r.draft known true
  let request := r.schema.request (if known then .put else .post) draft.uri
  .ok { request with headers := draft.headers, body := some draft.body }

def itemRequest (r : Resource) (c : Capability) (method : Method) : Except Error Request := do
  r.schema.require c
  .ok (r.schema.request method (← r.path true))

def withoutAccept (q : Request) : Request := { q with headers := q.headers.insert "Accept" "" }

def updateMethod : UpdateStyle → Method
  | .put => .put
  | .patchMerge => .patch
  | .patchJson => .patch

def updateBody (r : Resource) : Value :=
  match r.schema.updateStyle with
  | .patchJson => patchValue r.patchSteps
  | _ => r.wrap true r.updates

def commitRequest (r : Resource) : Except Error (Option Request) :=
  if r.hasPendingUpdate then do
    r.schema.require .commit
    let request := r.schema.request (updateMethod r.schema.updateStyle) (← r.path true)
    .ok (some { request with headers := r.headerTexts, body := some r.updateBody })
  else .ok none

def plan (r : Resource) : Operation → Except Error (Option Request)
  | .create => r.createRequest.map some
  | .fetch => (r.itemRequest .fetch .get).map some
  | .head => (r.itemRequest .head .head).map (some ∘ withoutAccept)
  | .delete => (r.itemRequest .delete .delete).map (some ∘ withoutAccept)
  | .commit => r.commitRequest

def unwrap (r : Resource) (body : Value) : Value :=
  match r.schema.resourceKey with
  | some key => (body.member? key).getD body
  | none => body

def absorbBody (r : Resource) (response : Response) : Component :=
  match (response.body.map r.unwrap).bind Value.record? with
  | some fields => r.body.merge fields
  | none => r.body.clean

def replyHeaders (r : Resource) (response : Response) : Dict Value :=
  .ofList ((r.schema.fieldsIn .header).filterMap fun f =>
    (response.header? f.wire).map fun v => (f.wire, .text v))

def carriesBody : Operation → Bool
  | .create | .fetch | .commit => true
  | .head | .delete => false

def absorb (r : Resource) (op : Operation) (response : Response) : Resource :=
  { r with
    body := if carriesBody op then r.absorbBody response else r.body
    header := r.header.merge (r.replyHeaders response) }

variable {σ : Type}

def perform (s : Session σ) (op : Operation) (r : Resource) (c : Conversation σ) :
    Except Error Resource × Conversation σ :=
  match r.plan op with
  | .error e => (.error e, c)
  | .ok none => (.ok r, c)
  | .ok (some q) =>
      match s.request q c with
      | (.error e, c) => (.error e, c)
      | (.ok response, c) => (.ok (r.absorb op response), c)

def settle (s : Session σ) (op : Operation) (r : Resource) (c : Conversation σ) :
    Settled × Conversation σ :=
  match r.perform s op c with
  | (.ok r, c) => ((.ok (), r), c)
  | (.error e, c) => ((.error e, r), c)

def actionRequest (r : Resource) (method : Method) (suffix : String) (body : Option Value) :
    Except Error Request := do
  let uri ← r.path true
  let url := uri ++ "/" ++ String.ofList (Text.dropStart '/' suffix.toList)
  .ok { r.schema.request method url with body := body }

def action (s : Session σ) (r : Resource) (method : Method) (suffix : String) (body : Option Value)
    (c : Conversation σ) : Except Error Response × Conversation σ :=
  match r.actionRequest method suffix body with
  | .error e => (.error e, c)
  | .ok q => s.request q c

theorem supply_fetch_lt {s : Session σ} {r r' : Resource} {c c' : Conversation σ}
    (h : r.perform s .fetch c = (.ok r', c')) : s.supply c'.peer < s.supply c.peer := by
  unfold perform at h
  split at h
  · simp at h
  · rename_i hp
    simp only [plan, Except.map] at hp
    split at hp <;> simp at hp
  · split at h
    · simp at h
    · rename_i hq
      simp only [Prod.mk.injEq] at h
      obtain ⟨-, rfl⟩ := h
      exact Session.supply_request_lt hq

end Resource

end ControlPlane
