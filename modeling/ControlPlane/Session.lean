import ControlPlane.Error
import ControlPlane.Basic

namespace ControlPlane

inductive Method where
  | get
  | post
  | put
  | patch
  | delete
  | head
  | other (token : String)
  deriving DecidableEq, Repr, Inhabited

def Method.token : Method → String
  | .get => "GET"
  | .post => "POST"
  | .put => "PUT"
  | .patch => "PATCH"
  | .delete => "DELETE"
  | .head => "HEAD"
  | .other token => token

def Method.ofToken : String → Method
  | "GET" => .get
  | "POST" => .post
  | "PUT" => .put
  | "PATCH" => .patch
  | "DELETE" => .delete
  | "HEAD" => .head
  | token => .other token

structure Request where
  method : Method
  url : String
  headers : Dict String := .empty
  body : Option Value := none
  params : List (String × String) := []
  service : Option String := none
  endpoint : Option String := none
  microversion : Option String := none
  retriable : List Nat := []
  deriving DecidableEq, Repr, Inhabited

-- A successful answer; its header names are in lowercase.
structure Response where
  status : Nat
  headers : Dict String := .empty
  body : Option Value := none
  deriving DecidableEq, Repr, Inhabited

namespace Response

def withHeaders (r : Response) (headers : List (String × String)) : Response :=
  { r with headers := r.headers.insertAll (headers.map fun h => (Text.asciiLower h.1, h.2)) }

def header? (r : Response) (name : String) : Option String := r.headers.get? (Text.asciiLower name)

def content (r : Response) : Value := r.body.getD .null

end Response

structure Sent where
  time : Nat
  request : Request
  deriving DecidableEq, Repr

structure Conversation (σ : Type) where
  clock : Nat := 0
  sent : List Sent := []
  peer : σ
  deriving Repr

def Conversation.sleep {σ : Type} (c : Conversation σ) (duration : Nat) : Conversation σ :=
  { c with clock := c.clock + duration }

structure Answer (σ : Type) where
  result : Except Error Response
  duration : Nat := 0
  peer : σ

structure Session (σ : Type) where
  dress : Request → Request := id
  answer : Request → σ → Answer σ
  supply : σ → Nat
  supply_lt : ∀ q p r, (answer q p).result = .ok r → supply (answer q p).peer < supply p

namespace Session

variable {σ : Type}

def request (s : Session σ) (q : Request) (c : Conversation σ) :
    Except Error Response × Conversation σ :=
  let q := s.dress q
  let a := s.answer q c.peer
  (a.result,
    { clock := c.clock + a.duration, sent := c.sent ++ [⟨c.clock, q⟩], peer := a.peer })

theorem supply_request_lt {s : Session σ} {q : Request} {c c' : Conversation σ} {r : Response}
    (h : s.request q c = (.ok r, c')) : s.supply c'.peer < s.supply c.peer := by
  simp only [request, Prod.mk.injEq] at h
  obtain ⟨h, rfl⟩ := h
  exact s.supply_lt _ _ _ h

end Session

inductive Reply where
  | success (response : Response)
  | failure (status : Nat) (body : String)
  deriving DecidableEq, Repr

def replayAnswer (q : Request) : List Reply → Answer (List Reply)
  | [] =>
      { result := .error (.invalidRequest ("no reply queued for " ++ q.method.token ++ " " ++ q.url))
        peer := [] }
  | .success response :: rest => { result := .ok response, peer := rest }
  | .failure status body :: rest =>
      { result := .error (.ofStatus q.method.token q.url status body none), peer := rest }

def Session.replay : Session (List Reply) where
  answer := replayAnswer
  supply := List.length
  supply_lt := by
    intro q p r h
    match p with
    | [] => simp [replayAnswer] at h
    | .success _ :: _ => simp [replayAnswer]
    | .failure _ _ :: _ => simp [replayAnswer] at h

end ControlPlane
