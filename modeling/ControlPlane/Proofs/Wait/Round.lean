import ControlPlane.Proofs.Wait.Look
import ControlPlane.Service.Baremetal.Fleet

namespace ControlPlane.Baremetal.Fleet

structure Entry where
  place : Nat
  node : Resource

def entries (nodes : List Resource) : List Entry := nodes.zipIdx.map fun e => ⟨e.2, e.1⟩

structure Visit (σ : Type) where
  place : Nat
  look : Look σ

inductive Mark where
  | reached
  | pending
  | failed (e : Error)
  | broken (e : Error)
  deriving DecidableEq

variable {σ : Type}

namespace Visit

def entry (v : Visit σ) : Entry := ⟨v.place, v.look.seen⟩

def mark (s : Session σ) (g : Goal) (v : Visit σ) : Mark :=
  match v.look.answer s with
  | .error e => .broken e
  | .ok r =>
      match Node.checkReached r g.expected g.abortOnFailure with
      | .ok true => .reached
      | .ok false => .pending
      | .error e => .failed e

def ends? (s : Session σ) (g : Goal) (v : Visit σ) : Option Error :=
  match v.mark s g with
  | .broken e => some e
  | .failed e => if g.failFast then some e else none
  | .reached | .pending => none

def isReached (s : Session σ) (g : Goal) (v : Visit σ) : Bool := v.mark s g == .reached

def isFailed (s : Session σ) (g : Goal) (v : Visit σ) : Bool :=
  match v.mark s g with
  | .failed _ => true
  | _ => false

def isPending (s : Session σ) (g : Goal) (v : Visit σ) : Bool := v.mark s g == .pending

def left (s : Session σ) (v : Visit σ) : Resource := v.look.left s

end Visit

def sweep (s : Session σ) (g : Goal) : List Entry → Conversation σ → List (Visit σ)
  | [], _ => []
  | e :: rest, c =>
      let v : Visit σ := ⟨e.place, e.node, c⟩
      if (v.ends? s g).isSome then [v] else v :: sweep s g rest (v.look.after s)

def waiting (s : Session σ) (g : Goal) (vs : List (Visit σ)) : List Entry :=
  (vs.filter (Visit.isPending s g)).map fun v => ⟨v.place, v.left s⟩

def talkAfter (s : Session σ) (c : Conversation σ) (vs : List (Visit σ)) : Conversation σ :=
  (vs.getLast?.map fun v => v.look.after s).getD c

def Outcome.add (s : Session σ) (g : Goal) (o : Outcome) (vs : List (Visit σ)) : Outcome :=
  { o with
    success := o.success ++ (vs.filter (Visit.isReached s g)).map (Visit.left s)
    failure := o.failure ++ (vs.filter (Visit.isFailed s g)).map (Visit.left s) }

section

variable {s : Session σ} {g : Goal} {v : Visit σ} {vs : List (Visit σ)} {c : Conversation σ}

theorem talkAfter_cons : talkAfter s c (v :: vs) = talkAfter s (v.look.after s) vs := by
  rw [talkAfter, talkAfter, List.getLast?_cons]
  cases vs.getLast? <;> rfl

theorem sweep_of_ends {e : Entry} {rest : List Entry} {err : Error}
    (h : (Visit.mk e.place ⟨e.node, c⟩).ends? s g = some err) :
    sweep s g (e :: rest) c = [⟨e.place, e.node, c⟩] := by
  simp [sweep, h]

theorem sweep_of_goesOn {e : Entry} {rest : List Entry}
    (h : (Visit.mk e.place ⟨e.node, c⟩).ends? s g = none) :
    sweep s g (e :: rest) c =
      ⟨e.place, e.node, c⟩ :: sweep s g rest ((Look.mk e.node c).after s) := by
  simp [sweep, h]

theorem fetch_eq (s : Session σ) (r : Resource) (c : Conversation σ) :
    r.perform s .fetch c = ((Look.mk r c).answer s, (Look.mk r c).after s) := rfl

theorem mark_of_checkReached {r : Resource} (ha : v.look.answer s = .ok r) :
    v.mark s g = match Node.checkReached r g.expected g.abortOnFailure with
      | .ok true => .reached
      | .ok false => .pending
      | .error e => .failed e := by
  rw [Visit.mark, ha]

theorem place_of_answer {r : Resource} (ha : v.look.answer s = .ok r) (o : Outcome)
    (pending : List Resource) :
    g.place r o pending =
      match v.ends? s g with
      | some e => .error e
      | none => .ok (o.add s g [v], pending ++ (waiting s g [v]).map Entry.node) := by
  have hleft : v.left s = r := Look.left_of_ok ha
  have hmark := mark_of_checkReached (g := g) ha
  rw [Goal.place]
  rcases hc : Node.checkReached r g.expected g.abortOnFailure with e | _ | _
  · rw [hc] at hmark
    cases hf : g.failFast <;>
      simp [Visit.ends?, Visit.isReached, Visit.isFailed, Visit.isPending, hmark, hf, Outcome.add,
        waiting, hleft]
  · rw [hc] at hmark
    simp [Visit.ends?, Visit.isReached, Visit.isFailed, Visit.isPending, hmark, Outcome.add,
      waiting, hleft]
  · rw [hc] at hmark
    simp [Visit.ends?, Visit.isReached, Visit.isFailed, Visit.isPending, hmark, Outcome.add,
      waiting, hleft]

theorem round_cons (r : Resource) (rest : List Resource) (o : Outcome) (pending : List Resource)
    (place : Nat) :
    round s g (r :: rest) o pending c =
      match (Visit.mk place ⟨r, c⟩).ends? s g with
      | some e => (.error e, (Look.mk r c).after s)
      | none => round s g rest (o.add s g [⟨place, r, c⟩])
          (pending ++ (waiting s g [⟨place, r, c⟩]).map Entry.node) ((Look.mk r c).after s) := by
  rw [round, fetch_eq]
  cases ha : (Look.mk r c).answer s with
  | error e => simp [Visit.ends?, Visit.mark, ha]
  | ok r' =>
      dsimp only
      rw [place_of_answer (v := ⟨place, r, c⟩) ha]
      cases (Visit.mk place ⟨r, c⟩).ends? s g <;> rfl

theorem add_cons (o : Outcome) : (o.add s g [v]).add s g vs = o.add s g (v :: vs) := by
  simp only [Outcome.add, List.filter_cons, List.filter_nil, List.append_assoc]
  cases v.isReached s g <;> cases v.isFailed s g <;> rfl

theorem waiting_cons (s : Session σ) (g : Goal) (v : Visit σ) (vs : List (Visit σ)) :
    waiting s g (v :: vs) = waiting s g [v] ++ waiting s g vs := by
  simp only [waiting, List.filter_cons, List.filter_nil]
  cases v.isPending s g <;> rfl

theorem round_eq (s : Session σ) (g : Goal) (es : List Entry) :
    ∀ (o : Outcome) (pending : List Resource) (c : Conversation σ),
    round s g (es.map Entry.node) o pending c =
      (match (sweep s g es c).findSome? (Visit.ends? s g) with
        | some e => .error e
        | none => .ok (o.add s g (sweep s g es c),
            pending ++ (waiting s g (sweep s g es c)).map Entry.node),
        talkAfter s c (sweep s g es c)) := by
  induction es with
  | nil =>
      intro o pending c
      simp [round, sweep, talkAfter, Outcome.add, waiting]
  | cons e rest ih =>
      intro o pending c
      rw [List.map_cons, round_cons e.node _ o pending e.place]
      cases he : (Visit.mk e.place ⟨e.node, c⟩).ends? s g with
      | some err =>
          rw [sweep_of_ends he]
          simp [he, talkAfter]
      | none =>
          rw [sweep_of_goesOn he]
          dsimp only
          rw [ih, talkAfter_cons, List.findSome?_cons, he, add_cons]
          rw [waiting_cons s g _ (sweep s g rest _), List.map_append, List.append_assoc]

theorem eq_of_round_error {es : List Entry} {o : Outcome} {c' : Conversation σ} {e : Error}
    (h : round s g (es.map Entry.node) o [] c = (.error e, c')) :
    (sweep s g es c).findSome? (Visit.ends? s g) = some e ∧
      c' = talkAfter s c (sweep s g es c) := by
  rw [round_eq, Prod.mk.injEq] at h
  obtain ⟨h, hc⟩ := h
  refine ⟨?_, hc.symm⟩
  split at h
  · rename_i hf
    rw [hf, Except.error.inj h]
  · simp at h

theorem eq_of_round_ok {es : List Entry} {o o' : Outcome} {pending : List Resource}
    {c' : Conversation σ} (h : round s g (es.map Entry.node) o [] c = (.ok (o', pending), c')) :
    (sweep s g es c).findSome? (Visit.ends? s g) = none ∧ o' = o.add s g (sweep s g es c) ∧
      pending = (waiting s g (sweep s g es c)).map Entry.node ∧
      c' = talkAfter s c (sweep s g es c) := by
  rw [round_eq, Prod.mk.injEq] at h
  obtain ⟨h, hc⟩ := h
  split at h
  · simp at h
  · rename_i hf
    simp only [Except.ok.injEq, Prod.mk.injEq, List.nil_append] at h
    exact ⟨hf, h.1.symm, h.2.symm, hc.symm⟩

theorem entries_of_sweep (s : Session σ) (g : Goal) (es : List Entry) : ∀ (c : Conversation σ),
    (sweep s g es c).map Visit.entry <+: es := by
  induction es with
  | nil => intro c; exact List.prefix_refl _
  | cons e rest ih =>
      intro c
      cases he : (Visit.mk e.place ⟨e.node, c⟩).ends? s g with
      | some err =>
          rw [sweep_of_ends he]
          exact List.prefix_append [e] rest
      | none =>
          rw [sweep_of_goesOn he]
          exact List.cons_prefix_cons.mpr ⟨rfl, ih _⟩

theorem sweep_complete {es : List Entry} : ∀ {c : Conversation σ},
    (∀ v ∈ sweep s g es c, v.ends? s g = none) → (sweep s g es c).map Visit.entry = es := by
  induction es with
  | nil => intro c _; rfl
  | cons e rest ih =>
      intro c h
      cases he : (Visit.mk e.place ⟨e.node, c⟩).ends? s g with
      | some err =>
          rw [sweep_of_ends he] at h
          have := h _ (List.mem_cons_self ..)
          rw [he] at this
          simp at this
      | none =>
          rw [sweep_of_goesOn he] at h ⊢
          rw [List.map_cons, ih fun v hv => h v (List.mem_cons_of_mem _ hv)]
          rfl

theorem getLast?_of_ends {es : List Entry} : ∀ {c : Conversation σ} {v : Visit σ},
    v ∈ sweep s g es c → v.ends? s g ≠ none → (sweep s g es c).getLast? = some v := by
  induction es with
  | nil => intro c v hv; simp [sweep] at hv
  | cons e rest ih =>
      intro c v hv hends
      cases he : (Visit.mk e.place ⟨e.node, c⟩).ends? s g with
      | some err =>
          rw [sweep_of_ends he] at hv ⊢
          rw [List.mem_singleton.mp hv]
          rfl
      | none =>
          rw [sweep_of_goesOn he] at hv ⊢
          rcases List.mem_cons.mp hv with rfl | hv
          · exact absurd he hends
          · rw [List.getLast?_cons, ih hv hends]
            rfl

theorem sent_sweep (s : Session σ) (g : Goal) (es : List Entry) : ∀ (c : Conversation σ),
    (talkAfter s c (sweep s g es c)).sent =
      c.sent ++ (sweep s g es c).flatMap fun v => v.look.sent s := by
  induction es with
  | nil => intro c; exact (List.append_nil _).symm
  | cons e rest ih =>
      intro c
      cases he : (Visit.mk e.place ⟨e.node, c⟩).ends? s g with
      | some err =>
          rw [sweep_of_ends he]
          change ((Look.mk e.node c).after s).sent = _
          rw [Look.sent_after]
          simp
      | none =>
          rw [sweep_of_goesOn he, talkAfter_cons]
          dsimp only
          rw [ih, Look.sent_after, List.flatMap_cons, List.append_assoc]

end

end ControlPlane.Baremetal.Fleet
