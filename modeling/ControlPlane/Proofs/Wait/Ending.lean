import ControlPlane.Proofs.Wait.Stop
import ControlPlane.Proofs.Wait.Vigil

namespace ControlPlane.Baremetal.Node

inductive Ending where
  | reached (node : Resource)
  | raised (node : Resource) (e : Error)
  | refused (node : Resource) (e : Error)
  | spent (node : Resource)

def Ending.settled (message : String) : Ending → Settled
  | reached node => (.ok (), node)
  | raised node e => (.error e, node)
  | refused node e => (.error e, node)
  | spent node => (.error (.resourceTimeout message), node)

def lateMessage (first : Resource) (expected : String) : String :=
  "Timeout waiting for node " ++ idText first ++ " to reach target state '" ++ expected ++ "'"

variable {σ : Type}

def OnTheWay (s : Session σ) (expected : String) (abort : Bool) (p : WaitPolicy) (start : Nat)
    (k : Look σ) : Prop :=
  ¬p.Spent start k.talk.clock ∧ ∃ r, k.answer s = .ok r ∧ checkReached r expected abort = .ok false

inductive EndsAt (s : Session σ) (expected : String) (abort : Bool) (p : WaitPolicy) (start : Nat)
    (k : Look σ) : Ending → Conversation σ → Prop
  | reached {r} (ht : ¬p.Spent start k.talk.clock) (ha : k.answer s = .ok r)
      (h : checkReached r expected abort = .ok true) :
      EndsAt s expected abort p start k (.reached r) (k.after s)
  | raised {r e} (ht : ¬p.Spent start k.talk.clock) (ha : k.answer s = .ok r)
      (h : checkReached r expected abort = .error e) :
      EndsAt s expected abort p start k (.raised r e) (k.after s)
  | refused {e} (ht : ¬p.Spent start k.talk.clock) (ha : k.answer s = .error e) :
      EndsAt s expected abort p start k (.refused k.seen e) (k.after s)
  | spent (ht : p.Spent start k.talk.clock) : EndsAt s expected abort p start k (.spent k.seen) k.talk

structure Ends (s : Session σ) (expected : String) (abort : Bool) (p : WaitPolicy) (r : Resource)
    (c : Conversation σ) (n : Nat) (ending : Ending) (c' : Conversation σ) : Prop where
  onTheWay : ∀ j < n, OnTheWay s expected abort p c.clock (Wait.lookAt s p r c j)
  endsAt : EndsAt s expected abort p c.clock (Wait.lookAt s p r c n) ending c'

section

variable {s : Session σ} {expected : String} {abort : Bool} {p : WaitPolicy} {start : Nat}
  {k : Look σ} {ending other : Ending} {r : Resource} {c c' d : Conversation σ} {n m : Nat}

theorem settles?_provisionWatch (expected : String) (abort : Bool) (r : Resource) :
    (provisionWatch expected abort).settles? (.ok r) = match checkReached r expected abort with
      | .ok true => some (.ok ())
      | .ok false => none
      | .error e => some (.error e) := by
  simp only [Watch.settles?, provisionWatch]
  rcases checkReached r expected abort with e | _ | _ <;> rfl

theorem goesOn_iff_onTheWay : (provisionWatch expected abort).GoesOn s p start k ↔
    OnTheWay s expected abort p start k := by
  constructor
  · rintro ⟨ht, hopen⟩
    obtain ⟨ha, -⟩ := answer_of_open hopen
    refine ⟨ht, k.left s, ha, ?_⟩
    rw [ha, settles?_provisionWatch] at hopen
    rcases hc : checkReached (k.left s) expected abort with e | _ | _
    · simp [hc] at hopen
    · rfl
    · simp [hc] at hopen
  · rintro ⟨ht, r, ha, hc⟩
    exact ⟨ht, by rw [ha, settles?_provisionWatch, hc]⟩

theorem stopsAt_of_endsAt (message : String) (h : EndsAt s expected abort p start k ending c') :
    (provisionWatch expected abort).StopsAt s p start message k (ending.settled message) c' := by
  cases h with
  | reached ht ha h =>
      rw [← Look.left_of_ok ha]
      exact .settled ht (by rw [ha, settles?_provisionWatch, h])
  | raised ht ha h =>
      rw [← Look.left_of_ok ha]
      exact .settled ht (by rw [ha, settles?_provisionWatch, h])
  | refused ht ha =>
      rw [← Look.left_of_error ha]
      exact .settled ht (by rw [ha]; rfl)
  | spent ht => exact .spent ht

theorem exists_endsAt (h : ¬OnTheWay s expected abort p start k) :
    ∃ ending c', EndsAt s expected abort p start k ending c' := by
  by_cases ht : p.Spent start k.talk.clock
  · exact ⟨_, _, .spent ht⟩
  · cases ha : k.answer s with
    | error e => exact ⟨_, _, .refused ht ha⟩
    | ok r =>
        rcases hc : checkReached r expected abort with e | _ | _
        · exact ⟨_, _, .raised ht ha hc⟩
        · exact absurd ⟨ht, r, ha, hc⟩ h
        · exact ⟨_, _, .reached ht ha hc⟩

theorem EndsAt.not_onTheWay (h : EndsAt s expected abort p start k ending c') :
    ¬OnTheWay s expected abort p start k := fun hway =>
  (stopsAt_of_endsAt "" h).not_goesOn (goesOn_iff_onTheWay.mpr hway)

theorem EndsAt.unique (h : EndsAt s expected abort p start k ending c')
    (h' : EndsAt s expected abort p start k other d) : ending = other ∧ c' = d := by
  cases h <;> cases h' <;> simp_all

theorem Ends.unique (h : Ends s expected abort p r c n ending c')
    (h' : Ends s expected abort p r c m other d) : n = m ∧ ending = other ∧ c' = d := by
  rcases Nat.lt_trichotomy n m with hlt | rfl | hlt
  · exact absurd (h'.onTheWay n hlt) h.endsAt.not_onTheWay
  · exact ⟨rfl, h.endsAt.unique h'.endsAt⟩
  · exact absurd (h.onTheWay m hlt) h'.endsAt.not_onTheWay

theorem wait_ends (s : Session σ) (expected : String) (p : WaitPolicy) (abort : Bool) (r : Resource)
    (c : Conversation σ) : ∃ n ending c', Ends s expected abort p r c n ending c' ∧
      waitForProvisionState s expected p abort r c =
        (ending.settled (lateMessage r expected), c') := by
  obtain ⟨n, _, _, -, hopen, hstops⟩ :=
    poll_stops s (provisionWatch expected abort) p (lateMessage r expected) r c
  obtain ⟨ending, c', hends⟩ := exists_endsAt (mt goesOn_iff_onTheWay.mpr hstops.not_goesOn)
  exact ⟨n, ending, c', ⟨fun j hj => goesOn_iff_onTheWay.mp (hopen j hj), hends⟩,
    poll_of_first hopen (stopsAt_of_endsAt _ hends)⟩

theorem checkReached_of_ok {b : Bool} (h : checkReached r expected true = .ok b) :
    checkReached r expected false = .ok b := by
  by_cases hat : isAt expected (provisionState? r) = true
  · rw [checkReached, if_pos hat] at h ⊢
    exact h
  · rw [checkReached, if_neg hat] at h ⊢
    cases hf : failure? r expected with
    | some e => simp [hf] at h
    | none => simpa [hf] using h

theorem checkReached_of_error {e : Error} (h : checkReached r expected true = .error e) :
    checkReached r expected false = .ok false := by
  by_cases hat : isAt expected (provisionState? r) = true
  · rw [checkReached, if_pos hat] at h
    simp at h
  · rw [checkReached, if_neg hat]
    rfl

theorem checkReached_ne_error (r : Resource) (expected : String) (e : Error) :
    checkReached r expected false ≠ .error e := by
  rw [checkReached]
  split <;> simp

theorem OnTheWay.patient (h : OnTheWay s expected true p start k) :
    OnTheWay s expected false p start k := by
  obtain ⟨ht, r, ha, hc⟩ := h
  exact ⟨ht, r, ha, checkReached_of_ok hc⟩

theorem EndsAt.patient (h : EndsAt s expected true p start k ending c')
    (hraised : ∀ node e, ending ≠ .raised node e) : EndsAt s expected false p start k ending c' := by
  cases h with
  | reached ht ha hc => exact .reached ht ha (checkReached_of_ok hc)
  | raised ht ha hc => exact absurd rfl (hraised _ _)
  | refused ht ha => exact .refused ht ha
  | spent ht => exact .spent ht

theorem EndsAt.not_raised (h : EndsAt s expected false p start k ending c') (node : Resource)
    (e : Error) : ending ≠ .raised node e := by
  rintro rfl
  cases h with
  | raised _ _ hc => exact checkReached_ne_error _ _ _ hc

theorem EndsAt.sent_prefix (h : EndsAt s expected abort p start k ending c') :
    k.talk.sent <+: c'.sent := by
  cases h with
  | reached _ _ _ | raised _ _ _ | refused _ _ =>
      rw [Look.sent_after]
      exact List.prefix_append ..
  | spent _ => exact List.prefix_rfl

theorem sent_prefix_wait (s : Session σ) (expected : String) (p : WaitPolicy) (abort : Bool)
    (r : Resource) (c : Conversation σ) :
    c.sent <+: (waitForProvisionState s expected p abort r c).2.sent := by
  obtain ⟨n, ending, c', hends, hwait⟩ := wait_ends s expected p abort r c
  rw [hwait]
  exact (Look.sent_prefix_nth s p.interval ⟨r, c⟩ (Nat.zero_le n)).trans hends.endsAt.sent_prefix

structure OnlyCutsShort (expected : String) (n : Nat) (ending : Ending) (c : Conversation σ) (m : Nat)
    (other : Ending) (d : Conversation σ) : Prop where
  never : ∀ node e, other ≠ .raised node e
  same : (∀ node e, ending ≠ .raised node e) → n = m ∧ ending = other ∧ c = d
  cut : ∀ node e, ending = .raised node e → n < m ∧ c.sent <+: d.sent ∧
    ¬(Vigil.provisionState expected true).Reached node ∧
    (Vigil.provisionState expected true).Failed node

theorem failed_of_checkReached {e : Error} (h : checkReached r expected true = .error e) :
    ¬(Vigil.provisionState expected true).Reached r ∧
      (Vigil.provisionState expected true).Failed r := by
  have hj := Vigil.judged_provisionState expected true r
  rw [Vigil.provisionWatch_of_error h] at hj
  cases hj with
  | failed text hf hr => exact ⟨hr, hf⟩

theorem onlyCutsShort_of_ends (h : Ends s expected true p r c n ending c')
    (h' : Ends s expected false p r c m other d) :
    OnlyCutsShort expected n ending c' m other d where
  never := h'.endsAt.not_raised
  same hraised := by
    have hpatient : Ends s expected false p r c n ending c' :=
      ⟨fun j hj => (h.onTheWay j hj).patient, h.endsAt.patient hraised⟩
    exact hpatient.unique h'
  cut node e he := by
    subst he
    obtain ⟨hway, hends⟩ := h
    cases hends with
    | raised ht ha hc =>
        have hlook : OnTheWay s expected false p c.clock (Wait.lookAt s p r c n) :=
          ⟨ht, node, ha, checkReached_of_error hc⟩
        have hlt : n < m := by
          rcases Nat.lt_trichotomy n m with hlt | rfl | hlt
          · exact hlt
          · exact absurd hlook h'.endsAt.not_onTheWay
          · exact absurd (hway m hlt).patient h'.endsAt.not_onTheWay
        -- the look after the one that made the wait give up has the same requests behind it
        have hnext : ((Wait.lookAt s p r c n).after s).sent <+: (Wait.lookAt s p r c m).talk.sent := by
          have hle := Look.sent_prefix_nth s p.interval ⟨r, c⟩ (Nat.succ_le_of_lt hlt)
          rw [Look.nth_succ] at hle
          exact hle
        exact ⟨hlt, hnext.trans h'.endsAt.sent_prefix, failed_of_checkReached hc⟩

end

theorem abort_only_cuts_short (s : Session σ) (expected : String) (p : WaitPolicy) (r : Resource)
    (c : Conversation σ) : ∃ n ending c' m other d,
      Ends s expected true p r c n ending c' ∧
      waitForProvisionState s expected p true r c =
        (ending.settled (lateMessage r expected), c') ∧
      Ends s expected false p r c m other d ∧
      waitForProvisionState s expected p false r c =
        (other.settled (lateMessage r expected), d) ∧
      OnlyCutsShort expected n ending c' m other d := by
  obtain ⟨n, ending, c', h, hwait⟩ := wait_ends s expected p true r c
  obtain ⟨m, other, d, h', hwait'⟩ := wait_ends s expected p false r c
  exact ⟨n, ending, c', m, other, d, h, hwait, h', hwait', onlyCutsShort_of_ends h h'⟩

end ControlPlane.Baremetal.Node
