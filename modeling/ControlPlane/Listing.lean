import ControlPlane.Resource.Exchange

namespace ControlPlane

structure Listing where
  schema : Schema
  path : String
  filters : List (String × String)
  uri : Dict Value
  paginated : Bool
  limit : Option Nat
  marker : Option String
  buffer : List Value := []
  given : Option Nat := none
  deriving DecidableEq, Repr

def pageLimit? : Value → Option Nat
  | .text s => readWord? s.toList
  | v => v.natural?

namespace Listing

def uriParams (s : Schema) (params : Dict Value) : Dict Value :=
  .ofList (params.entries.filterMap fun e => (s.uriField? e.1).map fun f => (f.wire, e.2))

def queryParams (s : Schema) (params : Dict Value) : Dict Value :=
  params.filter fun name _ => (s.uriField? name).isNone

def start (s : Schema) (params : Dict Value) (paginated : Bool) : Except Error Listing := do
  s.require .list
  let uri := uriParams s params
  let query := queryParams s params
  let path ← s.collectionPath uri
  let filters ← s.query.transpose ((query.erase "limit").erase "marker")
  .ok { schema := s, path := path, filters := filters, uri := uri, paginated := paginated
        limit := (query.get? "limit").bind pageLimit?
        marker := (query.get? "marker").bind Value.text? }

def wantsPage (l : Listing) : Bool :=
  match l.given with
  | none => true
  | some n => l.paginated && n != 0 && l.limit.all (· ≤ n)

def nextLimit (l : Listing) : Option Nat := l.given.or l.limit

def optionalPair (name : String) : Option String → List (String × String)
  | some text => [(name, text)]
  | none => []

def pageRequest (l : Listing) : Request :=
  { l.schema.request .get l.path with
    params := l.filters ++ optionalPair "limit" (l.nextLimit.map toString) ++
      optionalPair "marker" l.marker }

def pageItems (s : Schema) (body : Value) : List Value :=
  let items :=
    match s.resourcesKey with
    | some key => (body.member? key).getD .null
    | none => body
  match items with
  | .list items => items
  | _ => []

def turnPage (l : Listing) (response : Response) : Listing :=
  { l with limit := l.nextLimit, given := some 0, buffer := pageItems l.schema response.content }

def firstRecord? : List Value → Option (Dict Value × List Value)
  | [] => none
  | v :: rest =>
      match v.record? with
      | some fields => some (fields, rest)
      | none => firstRecord? rest

def pop? (l : Listing) : Option (Resource × Listing) :=
  (firstRecord? l.buffer).map fun (fields, rest) =>
    let item := Resource.ofServer l.schema fields l.uri
    (item, { l with buffer := rest, marker := item.id?, given := l.given.map (· + 1) })

variable {σ : Type}

def pull (s : Session σ) (l : Listing) (c : Conversation σ) :
    Except Error (Option (Resource × Listing)) × Conversation σ :=
  match l.pop? with
  | some next => (.ok (some next), c)
  | none =>
      if l.wantsPage then
        match s.request l.pageRequest c with
        | (.error e, c) => (.error e, c)
        | (.ok response, c) => (.ok (l.turnPage response).pop?, c)
      else (.ok none, c)

theorem firstRecord?_length : ∀ {items rest : List Value} {fields : Dict Value},
    firstRecord? items = some (fields, rest) → rest.length < items.length := by
  intro items
  induction items with
  | nil => intro rest fields h; simp [firstRecord?] at h
  | cons v vs ih =>
      intro rest fields h
      simp only [firstRecord?] at h
      split at h
      · simp only [Option.some.injEq, Prod.mk.injEq] at h
        obtain ⟨-, rfl⟩ := h
        simp
      · exact Nat.lt_succ_of_lt (ih h)

theorem buffer_pop?_length {l l' : Listing} {r : Resource} (h : l.pop? = some (r, l')) :
    l'.buffer.length < l.buffer.length := by
  simp only [pop?, Option.map_eq_some_iff] at h
  obtain ⟨⟨fields, rest⟩, hf, h⟩ := h
  simp only [Prod.mk.injEq] at h
  obtain ⟨-, rfl⟩ := h
  exact firstRecord?_length hf

theorem pull_decreases {s : Session σ} {l l' : Listing} {r : Resource} {c c' : Conversation σ}
    (h : l.pull s c = (.ok (some (r, l')), c')) :
    s.supply c'.peer < s.supply c.peer ∨
      (s.supply c'.peer = s.supply c.peer ∧ l'.buffer.length < l.buffer.length) := by
  unfold pull at h
  split at h
  · rename_i hp
    simp only [Prod.mk.injEq, Except.ok.injEq, Option.some.injEq] at h
    obtain ⟨rfl, rfl⟩ := h
    exact .inr ⟨rfl, buffer_pop?_length hp⟩
  · split at h
    · split at h
      · simp at h
      · rename_i hq
        simp only [Prod.mk.injEq] at h
        obtain ⟨-, rfl⟩ := h
        exact .inl (Session.supply_request_lt hq)
    · simp at h

inductive Ending where
  | exhausted
  | stopped
  | failed (e : Error)
  deriving DecidableEq, Repr

def scan {β : Type} (s : Session σ) (step : β → Resource → β × Option Ending) (acc : β) (l : Listing)
    (c : Conversation σ) : (β × Ending) × Conversation σ :=
  match _h : l.pull s c with
  | (.error e, c) => ((acc, .failed e), c)
  | (.ok none, c) => ((acc, .exhausted), c)
  | (.ok (some (r, l)), c) =>
      match step acc r with
      | (acc, some ending) => ((acc, ending), c)
      | (acc, none) => scan s step acc l c
termination_by (s.supply c.peer, l.buffer.length)
decreasing_by
  rcases pull_decreases _h with h | ⟨h, h'⟩
  · exact .left _ _ h
  · rw [h]; exact .right _ h'

def drain (s : Session σ) (l : Listing) (c : Conversation σ) :
    (List Resource × Ending) × Conversation σ :=
  l.scan s (fun items r => (items ++ [r], none)) [] c

def take (s : Session σ) : Nat → Listing → Conversation σ →
    (List Resource × Ending) × Conversation σ
  | 0, _, c => (([], .stopped), c)
  | n + 1, l, c =>
      match l.pull s c with
      | (.error e, c) => (([], .failed e), c)
      | (.ok none, c) => (([], .exhausted), c)
      | (.ok (some (r, l)), c) =>
          let ((items, ending), c) := take s n l c
          ((r :: items, ending), c)

def all (s : Session σ) (schema : Schema) (params : Dict Value) (paginated : Bool)
    (c : Conversation σ) : Except Error (List Resource) × Conversation σ :=
  match start schema params paginated with
  | .error e => (.error e, c)
  | .ok l =>
      match l.drain s c with
      | ((_, .failed e), c) => (.error e, c)
      | ((items, _), c) => (.ok items, c)

end Listing

end ControlPlane
