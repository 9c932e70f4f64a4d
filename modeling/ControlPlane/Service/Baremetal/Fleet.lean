import ControlPlane.Service.Baremetal.Node

namespace ControlPlane.Baremetal.Fleet

structure Outcome where
  success : List Resource := []
  failure : List Resource := []
  timeout : List Resource := []
  deriving DecidableEq, Repr

structure Goal where
  expected : String
  abortOnFailure : Bool
  failFast : Bool
  deriving DecidableEq, Repr

variable {σ : Type}

def Goal.place (g : Goal) (r : Resource) (o : Outcome) (pending : List Resource) :
    Except Error (Outcome × List Resource) :=
  match Node.checkReached r g.expected g.abortOnFailure with
  | .ok true => .ok ({ o with success := o.success ++ [r] }, pending)
  | .ok false => .ok (o, pending ++ [r])
  | .error e => if g.failFast then .error e else .ok ({ o with failure := o.failure ++ [r] }, pending)

def round (s : Session σ) (g : Goal) : List Resource → Outcome → List Resource → Conversation σ →
    Except Error (Outcome × List Resource) × Conversation σ
  | [], o, pending, c => (.ok (o, pending), c)
  | r :: rest, o, pending, c =>
      match r.perform s .fetch c with
      | (.error e, c) => (.error e, c)
      | (.ok r, c) =>
          match g.place r o pending with
          | .error e => (.error e, c)
          | .ok (o, pending) => round s g rest o pending c

theorem place_length {g : Goal} {r : Resource} {o o' : Outcome} {pending pending' : List Resource}
    (h : g.place r o pending = .ok (o', pending')) : pending'.length ≤ pending.length + 1 := by
  unfold Goal.place at h
  split at h
  · simp only [Except.ok.injEq, Prod.mk.injEq] at h
    obtain ⟨-, rfl⟩ := h
    omega
  · simp only [Except.ok.injEq, Prod.mk.injEq] at h
    obtain ⟨-, rfl⟩ := h
    simp
  · split at h
    · simp at h
    · simp only [Except.ok.injEq, Prod.mk.injEq] at h
      obtain ⟨-, rfl⟩ := h
      omega

theorem supply_round {s : Session σ} {g : Goal} : ∀ {nodes : List Resource} {o o' : Outcome}
    {pending pending' : List Resource} {c c' : Conversation σ},
    round s g nodes o pending c = (.ok (o', pending'), c') →
      s.supply c'.peer + pending'.length ≤ s.supply c.peer + pending.length := by
  intro nodes
  induction nodes with
  | nil =>
      intro o o' pending pending' c c' h
      simp only [round, Prod.mk.injEq, Except.ok.injEq] at h
      obtain ⟨⟨-, rfl⟩, rfl⟩ := h
      exact Nat.le_refl _
  | cons r rest ih =>
      intro o o' pending pending' c c' h
      simp only [round] at h
      split at h
      · simp at h
      · rename_i hf
        have hlt := Resource.supply_fetch_lt hf
        split at h
        · simp at h
        · rename_i hp
          have hlen := place_length hp
          have := ih h
          omega

def waitLoop (s : Session σ) (g : Goal) (t : Ticker) (nodes : List Resource) (o : Outcome)
    (c : Conversation σ) : Except Error Outcome × Conversation σ :=
  match _ht : t.next c with
  | (.error e, c) => (if g.failFast then .error e else .ok { o with timeout := nodes }, c)
  | (.ok t, c) =>
      match _hr : round s g nodes o [] c with
      | (.error e, c) => (.error e, c)
      | (.ok (o, pending), c) =>
          if _hp : pending = [] then (.ok o, c) else waitLoop s g t pending o c
termination_by s.supply c.peer
decreasing_by
  have h := supply_round _hr
  have hpos := List.length_pos_iff.mpr _hp
  rw [Ticker.peer_next _ht] at h
  simp only [List.length_nil] at h
  omega

def resolveAll : List Reference → Except Error (List Resource)
  | [] => .ok []
  | ref :: rest => do
      let r ← ref.resolve Node.schema .empty
      let rs ← resolveAll rest
      .ok (r :: rs)

def waitForProvisionState (s : Session σ) (g : Goal) (policy : WaitPolicy) (refs : List Reference)
    (c : Conversation σ) : Except Error Outcome × Conversation σ :=
  match resolveAll refs with
  | .error e => (.error e, c)
  | .ok nodes =>
      let ids := joinWith ", " (nodes.filterMap (·.id?))
      let message :=
        "Timeout waiting for nodes " ++ ids ++ " to reach target state '" ++ g.expected ++ "'"
      waitLoop s g (.begin policy message c) nodes {} c

end ControlPlane.Baremetal.Fleet
