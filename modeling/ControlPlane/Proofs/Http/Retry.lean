import ControlPlane.Http.Gateway
import ControlPlane.Proofs.Data.Dict

namespace ControlPlane.Http

def MayRepeat (q : Request) (r : Reply) : Prop :=
  isSuccess r.status = false ∧ r.status ∈ q.retriable

structure Repeats (q : Request) (replies : Nat → Reply) (limit n : Nat) : Prop where
  le : n ≤ limit
  earlier : ∀ i < n, MayRepeat q (replies i)
  stops : n < limit → ¬MayRepeat q (replies n)

section

variable {q : Request} {replies : Nat → Reply} {limit n k : Nat}

theorem Repeats.succ (h : MayRepeat q (replies 0))
    (hrest : Repeats q (fun i => replies (i + 1)) limit n) :
    Repeats q replies (limit + 1) (n + 1) where
  le := Nat.succ_le_succ hrest.le
  earlier i hi := by
    cases i with
    | zero => exact h
    | succ i => exact hrest.earlier i (Nat.lt_of_succ_lt_succ hi)
  stops hn := hrest.stops (Nat.lt_of_succ_lt_succ hn)

end

namespace Gateway

variable {g : Gateway} {url : Url} {q : Request} {m : Message} {w : Wire} {replies : Nat → Reply}
  {left : Nat}

def outcome (url : Url) (q : Request) (r : Reply) : Except Error Response :=
  if isSuccess r.status then accept q r else .error (refuse url q r)

def pause (g : Gateway) (url : Url) (q : Request) (r : Reply) (left : Nat) : List Event :=
  [.warning (g.retryText url q r left), .slept g.delay]

def again (g : Gateway) (url : Url) (q : Request) (m : Message) (r : Reply) (left : Nat) (w : Wire) :
    Wire :=
  { w.record (.sent m :: g.pause url q r left) with script := w.script.drop 1 }

def refusal (url : Url) (q : Request) (r : Reply) : Refusal :=
  { method := q.method.token, url := url.text, status := r.status
    message := serverMessage (contentText q.method r)
    requestId := (readable r.headers).get? requestIdHeader }

end Gateway

end ControlPlane.Http
