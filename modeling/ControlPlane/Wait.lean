import ControlPlane.Resource.Exchange
import ControlPlane.Text.Lowercase

namespace ControlPlane

structure WaitPolicy where
  interval : Nat := 2000
  timeout : Option Nat := none
  deriving DecidableEq, Repr

structure Ticker where
  policy : WaitPolicy
  message : String
  start : Nat
  count : Nat := 0
  deriving DecidableEq, Repr

namespace Ticker

variable {σ : Type}

def begin (policy : WaitPolicy) (message : String) (c : Conversation σ) : Ticker :=
  { policy := policy, message := message, start := c.clock }

def pause (t : Ticker) : Nat := if t.count = 0 then 0 else t.policy.interval

def expired (t : Ticker) (now : Nat) : Bool := t.policy.timeout.any (· ≤ now - t.start)

def next (t : Ticker) (c : Conversation σ) : Except Error Ticker × Conversation σ :=
  let c := c.sleep t.pause
  if t.expired c.clock then (.error (.resourceTimeout t.message), c)
  else (.ok { t with count := t.count + 1 }, c)

theorem peer_next {t : Ticker} {c c' : Conversation σ} {r : Except Error Ticker}
    (h : t.next c = (r, c')) : c'.peer = c.peer := by
  unfold next at h
  simp only at h
  split at h <;> (simp only [Prod.mk.injEq] at h; obtain ⟨-, rfl⟩ := h; rfl)

end Ticker

inductive Verdict where
  | reached
  | failed (e : Error)
  | pending
  deriving DecidableEq, Repr

structure Watch where
  judge : Resource → Verdict
  onError : Error → Except Error Unit := .error

variable {σ : Type}

def poll (s : Session σ) (w : Watch) (t : Ticker) (r : Resource) (c : Conversation σ) :
    Settled × Conversation σ :=
  match _ht : t.next c with
  | (.error e, c) => ((.error e, r), c)
  | (.ok t, c) =>
      match _hf : r.perform s .fetch c with
      | (.error e, c) => ((w.onError e, r), c)
      | (.ok r, c) =>
          match w.judge r with
          | .reached => ((.ok (), r), c)
          | .failed e => ((.error e, r), c)
          | .pending => poll s w t r c
termination_by s.supply c.peer
decreasing_by
  have h := Resource.supply_fetch_lt _hf
  rw [Ticker.peer_next _ht] at h
  exact h

namespace Wait

def describe (r : Resource) : String := r.kind ++ ":" ++ r.id?.getD "<no id>"

def lowered? (r : Resource) (name : String) : Option String :=
  (r.getText? name).map Text.lowercase

structure Target where
  name : String := "status"
  status : String
  failures : List String := ["ERROR"]

def Target.reached (t : Target) (r : Resource) : Bool :=
  lowered? r t.name == some (Text.lowercase t.status)

def Target.failure? (t : Target) (r : Resource) : Option String :=
  (lowered? r t.name).filter fun current => (t.failures.map Text.lowercase).contains current

def Target.judge (t : Target) (name : String) (r : Resource) : Verdict :=
  if t.reached r then .reached
  else
    match t.failure? r with
    | some current =>
        .failed (.resourceFailure (name ++ " transitioned to failure state " ++ current))
    | none => .pending

def Target.onError (t : Target) (name : String) (e : Error) : Except Error Unit :=
  if e.isNotFound then
    .error (.resourceFailure (name ++ " went away while waiting for " ++ t.status))
  else .error e

def forAttribute (s : Session σ) (t : Target) (policy : WaitPolicy) (r : Resource)
    (c : Conversation σ) : Settled × Conversation σ :=
  if t.reached r then ((.ok (), r), c)
  else
    let name := describe r
    let message := "Timeout waiting for " ++ name ++ " to transition to " ++ t.status
    poll s { judge := t.judge name, onError := t.onError name } (.begin policy message c) r c

def deletion : Watch where
  judge r := if lowered? r "status" == some "deleted" then .reached else .pending
  onError e := if e.isNotFound then .ok () else .error e

def forDeletion (s : Session σ) (policy : WaitPolicy) (r : Resource) (c : Conversation σ) :
    Settled × Conversation σ :=
  let message := "Timeout waiting for " ++ describe r ++ " to delete"
  poll s deletion (.begin policy message c) r c

end Wait

end ControlPlane
