import ControlPlane.Proofs.Wait.Ending
import ControlPlane.Proofs.Wait.Partition

namespace ControlPlane.Baremetal

def Node.Ending.sorted (failFast : Bool) (message : String) : Node.Ending → Except Error Fleet.Outcome
  | reached node => .ok { success := [node] }
  | raised node e => if failFast then .error e else .ok { failure := [node] }
  | refused _ e => .error e
  | spent node => if failFast then .error (.resourceTimeout message) else .ok { timeout := [node] }

theorem Node.Ending.sorted_ok_iff (ending : Node.Ending) (message other : String) :
    (∃ o, ending.sorted true message = .ok o) ↔ (ending.settled other).1 = .ok () := by
  cases ending <;> simp [sorted, settled]

theorem Node.Ending.sorted_of_ok {ending : Node.Ending} {message other : String} (failFast : Bool)
    (h : (ending.settled other).1 = .ok ()) :
    ending.sorted failFast message = .ok { success := [(ending.settled other).2] } := by
  cases ending with
  | reached node => rfl
  | raised _ _ | refused _ _ | spent _ => simp [settled] at h

namespace Fleet

variable {σ : Type} {s : Session σ} {g : Goal} {t : Ticker} {r : Resource} {c c' : Conversation σ}
  {ending : Node.Ending} {v : Visit σ}

theorem roundAt_singleton (s : Session σ) (g : Goal) (t : Ticker) (r : Resource) (c : Conversation σ) :
    roundAt s g t [⟨0, r⟩] c = [⟨0, t.look r c⟩] := by
  cases he : (Visit.mk 0 (t.look r c)).ends? s g with
  | some e => exact sweep_of_ends he
  | none => exact sweep_of_goesOn he

theorem waitLoop_singleton (ht : ¬t.policy.Spent t.start (t.look r c).talk.clock) :
    waitLoop s g t [r] {} c =
      match (Visit.mk 0 (t.look r c)).mark s g with
      | .pending => waitLoop s g t.tick [(t.look r c).left s] {} ((t.look r c).after s)
      | .reached => (.ok { success := [(t.look r c).left s] }, (t.look r c).after s)
      | .failed e =>
          (if g.failFast then .error e else .ok { failure := [(t.look r c).left s] },
            (t.look r c).after s)
      | .broken e => (.error e, (t.look r c).after s) := by
  have hexp : ¬t.expired (c.sleep t.pause).clock = true := mt Ticker.expired_iff_spent.mp ht
  have h := waitLoop_eq s g t [⟨0, r⟩] {} c
  rw [roundAt_singleton, if_neg hexp] at h
  refine h.trans ?_
  cases hmark : (Visit.mk 0 (t.look r c)).mark s g with
  | pending =>
      simp [Visit.ends?, Visit.isPending, Visit.isReached, Visit.isFailed, waiting, Outcome.add, hmark]
      rfl
  | reached =>
      simp [Visit.ends?, Visit.isPending, Visit.isReached, Visit.isFailed, waiting, Outcome.add, hmark]
      exact ⟨rfl, rfl⟩
  | broken e =>
      simp [Visit.ends?, hmark]
      rfl
  | failed e =>
      cases hf : g.failFast with
      | true =>
          simp [Visit.ends?, hmark, hf]
          rfl
      | false =>
          simp [Visit.ends?, Visit.isPending, Visit.isReached, Visit.isFailed, waiting, Outcome.add,
            hmark, hf]
          exact ⟨rfl, rfl⟩

theorem mark_of_look {k : Look σ} {r' : Resource} (ha : k.answer s = .ok r') :
    (Visit.mk 0 k).mark s g = match Node.checkReached r' g.expected g.abortOnFailure with
      | .ok true => .reached
      | .ok false => .pending
      | .error e => .failed e := mark_of_checkReached (v := ⟨0, k⟩) ha

theorem waitLoop_of_onTheWay
    (h : Node.OnTheWay s g.expected g.abortOnFailure t.policy t.start (t.look r c)) :
    waitLoop s g t [r] {} c =
      waitLoop s g t.tick [(t.look r c).left s] {} ((t.look r c).after s) := by
  obtain ⟨ht, r', ha, hc⟩ := h
  simp only [waitLoop_singleton ht, mark_of_look ha, hc]

theorem waitLoop_of_endsAt
    (h : Node.EndsAt s g.expected g.abortOnFailure t.policy t.start (t.look r c) ending c') :
    waitLoop s g t [r] {} c = (ending.sorted g.failFast t.message, c') := by
  cases h with
  | spent ht =>
      have hexp : t.expired (c.sleep t.pause).clock = true := Ticker.expired_iff_spent.mpr ht
      exact (waitLoop_eq s g t [⟨0, r⟩] {} c).trans (if_pos hexp)
  | refused ht ha => simp only [waitLoop_singleton ht, Visit.mark, ha, Node.Ending.sorted]
  | raised ht ha hc =>
      simp only [waitLoop_singleton ht, mark_of_look ha, hc, Look.left_of_ok ha, Node.Ending.sorted]
  | reached ht ha hc =>
      simp only [waitLoop_singleton ht, mark_of_look ha, hc, Look.left_of_ok ha, Node.Ending.sorted]

theorem waitLoop_of_ends (n : Nat) : ∀ {t : Ticker} {r : Resource} {c : Conversation σ},
    (∀ j < n, Node.OnTheWay s g.expected g.abortOnFailure t.policy t.start
      ((t.look r c).nth s t.policy.interval j)) →
    Node.EndsAt s g.expected g.abortOnFailure t.policy t.start
      ((t.look r c).nth s t.policy.interval n) ending c' →
      waitLoop s g t [r] {} c = (ending.sorted g.failFast t.message, c') := by
  induction n with
  | zero => intro t r c _ hends; exact waitLoop_of_endsAt hends
  | succ n ih =>
      intro t r c hway hends
      have hrest := ih (t := t.tick) (fun j hj => hway (j + 1) (Nat.succ_lt_succ hj)) hends
      exact (waitLoop_of_onTheWay (hway 0 (Nat.zero_lt_succ n))).trans hrest

def lateMessage (nodes : List Resource) (expected : String) : String :=
  "Timeout waiting for nodes " ++ joinWith ", " (nodes.filterMap (·.id?)) ++
    " to reach target state '" ++ expected ++ "'"

theorem waitForProvisionState_of_resolved {refs : List Reference} {nodes : List Resource}
    (h : resolveAll refs = .ok nodes) (p : WaitPolicy) :
    waitForProvisionState s g p refs c =
      waitLoop s g (.begin p (lateMessage nodes g.expected) c) nodes {} c := by
  unfold waitForProvisionState lateMessage
  simp only [h]

structure AgreesWithAlone (s : Session σ) (g : Goal) (p : WaitPolicy) (r : Resource)
    (c : Conversation σ) (n : Nat) (ending : Node.Ending) (c' : Conversation σ)
    (single : Settled × Conversation σ) (several : Except Error Outcome × Conversation σ) : Prop where
  ends : Node.Ends s g.expected g.abortOnFailure p r c n ending c'
  alone : single = (ending.settled (Node.lateMessage r g.expected), c')
  among : several = (ending.sorted g.failFast (lateMessage [r] g.expected), c')
  ok_iff : g.failFast = true → ((∃ o, several.1 = .ok o) ↔ single.1.1 = .ok ())
  success : single.1.1 = .ok () → several.1 = .ok { success := [single.1.2] }

theorem singleton_agrees_with_alone {ref : Reference} (h : ref.resolve Node.schema .empty = .ok r)
    (s : Session σ) (g : Goal) (p : WaitPolicy) (c : Conversation σ) :
    ∃ n ending c', AgreesWithAlone s g p r c n ending c'
      (Node.waitForProvisionState s g.expected p g.abortOnFailure r c)
      (waitForProvisionState s g p [ref] c) := by
  obtain ⟨n, ending, c', hends, halone⟩ :=
    Node.wait_ends s g.expected p g.abortOnFailure r c
  have hall : resolveAll [ref] = .ok [r] := by
    rw [resolveAll, h]
    rfl
  have hamong : waitForProvisionState s g p [ref] c =
      (ending.sorted g.failFast (lateMessage [r] g.expected), c') :=
    (waitForProvisionState_of_resolved hall p).trans
      (waitLoop_of_ends n (t := .begin p _ c) hends.onTheWay hends.endsAt)
  refine ⟨n, ending, c', hends, halone, hamong, fun hf => ?_, fun hok => ?_⟩
  · simp only [halone, hamong, hf]
    exact ending.sorted_ok_iff ..
  · simp only [halone, hamong] at hok ⊢
    exact Node.Ending.sorted_of_ok _ hok

def stateReply (state : String) : Reply :=
  .success { status := 200, body := some (.record [("provision_state", .text state)]) }

theorem cleaning_agrees_with_alone :
    let r : Resource := .withId Node.schema "n1"
    let g : Goal := ⟨"manageable", true, true⟩
    let c : Conversation (List Reply) :=
      ⟨0, [], [stateReply "cleaning", .success { status := 200 }, stateReply "clean failed"]⟩
    let alone := Node.waitForProvisionState .replay g.expected ⟨1000, some 5000⟩ g.abortOnFailure r c
    let among := waitForProvisionState .replay g ⟨1000, some 5000⟩ [.byId "n1"] c
    let failed := Error.resourceFailure
      "Node n1 reached failure state \"clean failed\"; the last error is "
    let look : Request :=
      { method := .get, url := "/nodes/n1", service := some "baremetal"
        microversion := some "1.52", retriable := [409, 503] }
    (Reference.byId "n1").resolve Node.schema .empty = .ok r ∧
      (∃ n ending c', AgreesWithAlone .replay g ⟨1000, some 5000⟩ r c n ending c' alone among) ∧
      alone.1.1 = .error failed ∧ among.1 = .error failed ∧
      alone.2.sent = [⟨0, look⟩, ⟨1000, look⟩, ⟨2000, look⟩] ∧ among.2.sent = alone.2.sent :=
  ⟨rfl, singleton_agrees_with_alone rfl .., by decide +kernel, by decide +kernel,
    by decide +kernel, by decide +kernel⟩

end Fleet

end ControlPlane.Baremetal
