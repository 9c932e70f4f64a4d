import ControlPlane.Proofs.Wait.Course
import ControlPlane.Service.Baremetal.Allocation
import ControlPlane.Service.Baremetal.Node
import ControlPlane.Service.Introspection

namespace ControlPlane

open Baremetal

inductive Vigil where
  | target (t : Wait.Target)
  | deletion
  | provisionState (expected : String) (abortOnFailure : Bool)
  | powerState (expected : String)
  | reservation
  | allocation (ignoreError : Bool)
  | introspection (ignoreError : Bool)

namespace Vigil

variable {σ : Type}

def wait (s : Session σ) (policy : WaitPolicy) (r : Resource) (c : Conversation σ) :
    Vigil → Settled × Conversation σ
  | target t => Wait.forAttribute s t policy r c
  | deletion => Wait.forDeletion s policy r c
  | provisionState expected abort => Node.waitForProvisionState s expected policy abort r c
  | powerState expected => Node.waitForPowerState s expected policy r c
  | reservation => Node.waitForReservation s policy r c
  | allocation ignoreError => Allocation.wait s policy ignoreError r c
  | introspection ignoreError => Introspection.wait s policy ignoreError r c

def Reached : Vigil → Resource → Prop
  | target t, r =>
      ∃ text, r.getText? t.name = some text ∧ Text.lowercase text = Text.lowercase t.status
  | deletion, r => ∃ text, r.getText? "status" = some text ∧ Text.lowercase text = "deleted"
  | provisionState expected _, r =>
      Node.provisionState? r = some expected ∨
        Node.provisionState? r = none ∧ expected = "available"
  | powerState expected, r => Node.powerState? r = some expected
  | reservation, r => Node.reservation? r = none
  | allocation ignoreError, r =>
      Allocation.state? r ≠ some "allocating" ∧
        (Allocation.state? r = some "error" → ignoreError = true)
  | introspection ignoreError, r =>
      r.getBool? "is_finished" = some true ∧
        (r.getText? "state" = some "error" → ignoreError = true)

def Failed : Vigil → Resource → Prop
  | target t, r =>
      ∃ text, r.getText? t.name = some text ∧ Text.lowercase text ≠ Text.lowercase t.status ∧
        ∃ failure ∈ t.failures, Text.lowercase failure = Text.lowercase text
  | provisionState expected abort, r =>
      abort = true ∧ ∃ state, Node.provisionState? r = some state ∧ state ≠ expected ∧
        (" failed".toList <:+ state.toList ∨ state = "error" ∨
          state = "enroll" ∧ expected = "manageable" ∧
            ∃ text, Node.lastError? r = some text ∧ text ≠ "")
  | allocation ignoreError, r => Allocation.state? r = some "error" ∧ ignoreError = false
  | introspection ignoreError, r => r.getText? "state" = some "error" ∧ ignoreError = false
  | deletion, _ | powerState _, _ | reservation, _ => False

def SettledAtOnce : Vigil → Resource → Prop
  | target t, r => (target t).Reached r
  | reservation, r => reservation.Reached r
  | introspection i, r => (introspection i).Reached r ∨ (introspection i).Failed r
  | deletion, _ | provisionState _ _, _ | powerState _, _ | allocation _, _ => False

def Undecided (v : Vigil) : Except Error Resource → Prop
  | .ok r => ¬v.Reached r ∧ ¬v.Failed r
  | .error _ => False

def EndsIn (v : Vigil) (e : Error) (result : Except Error Unit) : Prop :=
  match v, e.isNotFound with
  | deletion, true => result = .ok ()
  | target _, true => ∃ text, result = .error (.resourceFailure text)
  | _, _ => result = .error e

def Settles (v : Vigil) : Except Error Resource → Except Error Unit → Prop
  | .ok r, result =>
      v.Reached r ∧ result = .ok () ∨ v.Failed r ∧ ∃ text, result = .error (.resourceFailure text)
  | .error e, result => v.EndsIn e result

def watch (r : Resource) : Vigil → Watch
  | target t => { judge := t.judge (Wait.describe r), onError := t.onError (Wait.describe r) }
  | deletion => Wait.deletion
  | provisionState expected abort => Node.provisionWatch expected abort
  | powerState expected => Node.powerWatch expected
  | reservation => Node.reservationWatch
  | allocation ignoreError => { judge := Allocation.judge (r.id?.getD "") ignoreError }
  | introspection ignoreError => { judge := Introspection.judge ignoreError }

inductive Judged (v : Vigil) (r : Resource) : Verdict → Prop
  | reached (h : v.Reached r) (hf : ¬v.Failed r) : Judged v r .reached
  | failed (text : String) (h : v.Failed r) (hr : ¬v.Reached r) :
      Judged v r (.failed (.resourceFailure text))
  | pending (hr : ¬v.Reached r) (hf : ¬v.Failed r) : Judged v r .pending

theorem lowered?_eq_some_iff {r : Resource} {name text : String} :
    Wait.lowered? r name = some text ↔
      ∃ t, r.getText? name = some t ∧ Text.lowercase t = text :=
  Option.map_eq_some_iff

theorem reached_attribute_iff {t : Wait.Target} {r : Resource} :
    (target t).Reached r ↔ t.reached r = true := by
  rw [Wait.Target.reached, beq_iff_eq, lowered?_eq_some_iff]
  rfl

theorem failure?_eq_some_iff {t : Wait.Target} {r : Resource} {text : String} :
    t.failure? r = some text ↔
      Wait.lowered? r t.name = some text ∧ ∃ failure ∈ t.failures, Text.lowercase failure = text := by
  rw [Wait.Target.failure?, Option.filter_eq_some_iff]
  simp

theorem judged_attribute (t : Wait.Target) (name : String) (r : Resource) :
    (target t).Judged r (t.judge name r) := by
  rw [Wait.Target.judge]
  by_cases hr : t.reached r = true
  · rw [if_pos hr]
    refine .reached (reached_attribute_iff.mpr hr) ?_
    rintro ⟨text, ht, hne, -⟩
    obtain ⟨text', ht', he⟩ := reached_attribute_iff.mpr hr
    rw [ht, Option.some.injEq] at ht'
    exact hne (ht' ▸ he)
  · rw [if_neg hr]
    have hnot : ¬(target t).Reached r := mt reached_attribute_iff.mp hr
    cases hf : t.failure? r with
    | none =>
        refine .pending hnot ?_
        rintro ⟨text, ht, -, hin⟩
        have : t.failure? r = some (Text.lowercase text) :=
          failure?_eq_some_iff.mpr ⟨lowered?_eq_some_iff.mpr ⟨text, ht, rfl⟩, hin⟩
        simp [hf] at this
    | some current =>
        obtain ⟨hl, hin⟩ := failure?_eq_some_iff.mp hf
        obtain ⟨text, ht, rfl⟩ := lowered?_eq_some_iff.mp hl
        exact .failed _ ⟨text, ht, fun he => hnot ⟨text, ht, he⟩, hin⟩ hnot

theorem judged_deletion (r : Resource) : deletion.Judged r (Wait.deletion.judge r) := by
  have hiff : (Wait.lowered? r "status" == some "deleted") = true ↔ deletion.Reached r := by
    rw [beq_iff_eq, lowered?_eq_some_iff]
    rfl
  change deletion.Judged r (if Wait.lowered? r "status" == some "deleted" then _ else _)
  split
  · rename_i h
    exact .reached (hiff.mp h) id
  · rename_i h
    exact .pending (mt hiff.mpr h) id

theorem judged_reachedVerdict {v : Vigil} {r : Resource} {b : Bool} (h : b = true ↔ v.Reached r)
    (hf : ¬v.Failed r) : v.Judged r (Node.reachedVerdict b) := by
  cases b with
  | true => exact .reached (h.mp rfl) hf
  | false => exact .pending (fun hr => Bool.false_ne_true (h.mpr hr)) hf

theorem isAt_iff {expected : String} {abort : Bool} {r : Resource} :
    Node.isAt expected (Node.provisionState? r) = true ↔
      (provisionState expected abort).Reached r := by
  rw [Reached]
  cases Node.provisionState? r <;> simp [Node.isAt]

theorem isFailedState_iff {state : String} :
    Node.isFailedState state = true ↔ " failed".toList <:+ state.toList ∨ state = "error" := by
  rw [Node.isFailedState, Bool.or_eq_true, List.isSuffixOf_iff_suffix, beq_iff_eq]

theorem lastError_iff {r : Resource} :
    (!((Node.lastError? r).getD "").isEmpty) = true ↔
      ∃ text, Node.lastError? r = some text ∧ text ≠ "" := by
  cases Node.lastError? r with
  | none => simp
  | some text => simp

theorem isSome_failure?_iff {expected : String} {r : Resource} :
    (Node.failure? r expected).isSome = true ↔ ∃ state, Node.provisionState? r = some state ∧
      (" failed".toList <:+ state.toList ∨ state = "error" ∨
        state = "enroll" ∧ expected = "manageable" ∧
          ∃ text, Node.lastError? r = some text ∧ text ≠ "") := by
  rw [Node.failure?]
  cases Node.provisionState? r with
  | none => simp
  | some state =>
      simp only [Option.some.injEq, exists_eq_left']
      rw [← or_assoc, ← isFailedState_iff, ← lastError_iff]
      by_cases hf : Node.isFailedState state = true
      · simp [hf]
      · rw [if_neg hf]
        split
        · rename_i h
          simp only [Bool.and_eq_true, beq_iff_eq] at h
          simp [h.1.1, h.1.2, h.2]
        · rename_i h
          simp only [Bool.and_eq_true, beq_iff_eq, and_assoc] at h
          simp only [Option.isSome_none, Bool.false_eq_true, false_iff, not_or]
          exact ⟨hf, h⟩

theorem failure?_eq_some {expected : String} {r : Resource} {e : Error}
    (h : Node.failure? r expected = some e) : ∃ text, e = .resourceFailure text := by
  rw [Node.failure?] at h
  split at h
  · simp at h
  · dsimp only at h
    split at h
    · exact ⟨_, (Option.some.inj h).symm⟩
    · split at h
      · exact ⟨_, (Option.some.inj h).symm⟩
      · simp at h

section

variable {expected : String} {abort : Bool} {r : Resource}

theorem provisionWatch_of_ok {b : Bool} (h : Node.checkReached r expected abort = .ok b) :
    (Node.provisionWatch expected abort).judge r = Node.reachedVerdict b := by
  simp only [Node.provisionWatch, h]

theorem provisionWatch_of_error {e : Error} (h : Node.checkReached r expected abort = .error e) :
    (Node.provisionWatch expected abort).judge r = .failed e := by
  simp only [Node.provisionWatch, h]

end

theorem judged_provisionState (expected : String) (abort : Bool) (r : Resource) :
    (provisionState expected abort).Judged r ((Node.provisionWatch expected abort).judge r) := by
  by_cases hat : Node.isAt expected (Node.provisionState? r) = true
  · have hr : (provisionState expected abort).Reached r := isAt_iff.mp hat
    rw [provisionWatch_of_ok (by rw [Node.checkReached, if_pos hat])]
    refine .reached hr ?_
    rintro ⟨-, state, hs, hne, -⟩
    rcases hr with h | ⟨h, -⟩
    · rw [hs, Option.some.injEq] at h
      exact hne h
    · simp [hs] at h
  · have hr : ¬(provisionState expected abort).Reached r := mt isAt_iff.mpr hat
    cases abort with
    | false =>
        rw [provisionWatch_of_ok (by rw [Node.checkReached, if_neg hat]; rfl)]
        exact .pending hr fun hf => Bool.false_ne_true hf.1
    | true =>
        cases hf : Node.failure? r expected with
        | none =>
            rw [provisionWatch_of_ok (by rw [Node.checkReached, if_neg hat, if_pos rfl, hf])]
            refine .pending hr ?_
            rintro ⟨-, state, hs, -, hwhy⟩
            have := isSome_failure?_iff.mpr ⟨state, hs, hwhy⟩
            simp [hf] at this
        | some e =>
            rw [provisionWatch_of_error (by rw [Node.checkReached, if_neg hat, if_pos rfl, hf])]
            obtain ⟨text, rfl⟩ := failure?_eq_some hf
            obtain ⟨state, hs, hwhy⟩ := isSome_failure?_iff.mp (by rw [hf]; rfl)
            exact .failed _ ⟨rfl, state, hs, fun he => hr (.inl (he ▸ hs)), hwhy⟩ hr

theorem judged_allocation (id : String) (ignoreError : Bool) (r : Resource) :
    (allocation ignoreError).Judged r (Allocation.judge id ignoreError r) := by
  rw [Allocation.judge]
  split
  · rename_i h
    simp only [Bool.and_eq_true, beq_iff_eq, Bool.not_eq_true'] at h
    exact .failed _ h fun hr => by simp [hr.2 h.1] at h
  · rename_i h
    have hf : ¬(allocation ignoreError).Failed r := by
      rintro ⟨hs, hi⟩
      exact h (by simp [hs, hi])
    split
    · rename_i hs
      exact .pending (fun hr => hr.1 (beq_iff_eq.mp hs)) hf
    · rename_i hs
      refine .reached ⟨fun he => hs (by simp [he]), fun he => ?_⟩ hf
      exact Bool.not_eq_false _ ▸ fun hi => hf ⟨he, hi⟩

theorem judged_introspection (ignoreError : Bool) (r : Resource) :
    (introspection ignoreError).Judged r (Introspection.judge ignoreError r) := by
  have hfinished : Introspection.isFinished r = true ↔ r.getBool? "is_finished" = some true := by
    rw [Introspection.isFinished]
    cases r.getBool? "is_finished" <;> simp
  rw [Introspection.judge, Introspection.isFailed]
  split
  · rename_i h
    simp only [Bool.and_eq_true, beq_iff_eq, Bool.not_eq_true'] at h
    exact .failed _ h fun hr => by simp [hr.2 h.1] at h
  · rename_i h
    have hf : ¬(introspection ignoreError).Failed r := by
      rintro ⟨hs, hi⟩
      exact h (by simp [hs, hi])
    split
    · rename_i hd
      refine .reached ⟨hfinished.mp hd, fun he => ?_⟩ hf
      exact Bool.not_eq_false _ ▸ fun hi => hf ⟨he, hi⟩
    · rename_i hd
      exact .pending (fun hr => hd (hfinished.mpr hr.1)) hf

theorem judged_watch (v : Vigil) (r₀ r : Resource) : v.Judged r ((v.watch r₀).judge r) := by
  cases v with
  | target t => exact judged_attribute t _ r
  | deletion => exact judged_deletion r
  | provisionState expected abort => exact judged_provisionState expected abort r
  | powerState expected => exact judged_reachedVerdict beq_iff_eq id
  | reservation => exact judged_reachedVerdict Option.isNone_iff_eq_none id
  | allocation ignoreError => exact judged_allocation _ ignoreError r
  | introspection ignoreError => exact judged_introspection ignoreError r

variable {v : Vigil} {r₀ : Resource} {answer : Except Error Resource}

theorem endsIn_onError (v : Vigil) (r₀ : Resource) (e : Error) :
    v.EndsIn e ((v.watch r₀).onError e) := by
  cases v with
  | target t =>
      change EndsIn _ e (t.onError (Wait.describe r₀) e)
      rw [Wait.Target.onError]
      cases hn : e.isNotFound with
      | true =>
          simp only [EndsIn, hn]
          exact ⟨_, rfl⟩
      | false => simp [EndsIn, hn]
  | deletion =>
      change EndsIn _ e (if e.isNotFound then _ else _)
      cases hn : e.isNotFound <;> simp [EndsIn, hn]
  | provisionState _ _ | powerState _ | reservation | allocation _ | introspection _ =>
      cases e.isNotFound <;> simp [EndsIn, watch, Node.provisionWatch, Node.powerWatch,
        Node.reservationWatch]

theorem settles?_eq_none_iff : (v.watch r₀).settles? answer = none ↔ v.Undecided answer := by
  cases answer with
  | error e => simp [Watch.settles?, Undecided]
  | ok r =>
      have hj := v.judged_watch r₀ r
      rw [Watch.settles?, Undecided]
      generalize (v.watch r₀).judge r = verdict at hj
      cases hj with
      | reached h hf => simp [h]
      | failed text h hr => simp [h]
      | pending hr hf => simp [hr, hf]

theorem settles_of_settles? {result : Except Error Unit}
    (h : (v.watch r₀).settles? answer = some result) : v.Settles answer result := by
  cases answer with
  | error e =>
      simp only [Watch.settles?, Option.some.injEq] at h
      exact h ▸ v.endsIn_onError r₀ e
  | ok r =>
      have hj := v.judged_watch r₀ r
      rw [Watch.settles?] at h
      generalize (v.watch r₀).judge r = verdict at hj h
      cases hj with
      | reached hr _ => exact .inl ⟨hr, (Option.some.inj h).symm⟩
      | failed text hf _ => exact .inr ⟨hf, text, (Option.some.inj h).symm⟩
      | pending _ _ => simp at h

theorem wait_cases (v : Vigil) (s : Session σ) (policy : WaitPolicy) (r : Resource)
    (c : Conversation σ) :
    (v.SettledAtOnce r ∧ ∃ result, v.Settles (.ok r) result ∧
      v.wait s policy r c = ((result, r), c)) ∨
    (¬v.SettledAtOnce r ∧ ∃ message,
      v.wait s policy r c = poll s (v.watch r) (.begin policy message c) r c) := by
  cases v with
  | target t =>
      rw [wait, Wait.forAttribute]
      by_cases hr : t.reached r = true
      · have h : (target t).Reached r := reached_attribute_iff.mpr hr
        exact .inl ⟨h, _, .inl ⟨h, rfl⟩, if_pos hr⟩
      · exact .inr ⟨mt reached_attribute_iff.mp hr, _, if_neg hr⟩
  | reservation =>
      rw [wait, Node.waitForReservation]
      by_cases hr : (Node.reservation? r).isNone = true
      · have h : reservation.Reached r := Option.isNone_iff_eq_none.mp hr
        exact .inl ⟨h, _, .inl ⟨h, rfl⟩, if_pos hr⟩
      · exact .inr ⟨fun h => hr (Option.isNone_iff_eq_none.mpr h), _, if_neg hr⟩
  | introspection ignoreError =>
      have hj := judged_introspection ignoreError r
      rw [wait, Introspection.wait]
      generalize Introspection.judge ignoreError r = verdict at hj
      cases hj with
      | reached h _ => exact .inl ⟨.inl h, _, .inl ⟨h, rfl⟩, rfl⟩
      | failed text h _ => exact .inl ⟨.inr h, _, .inr ⟨h, _, rfl⟩, rfl⟩
      | pending hr hf => exact .inr ⟨not_or.mpr ⟨hr, hf⟩, _, rfl⟩
  | deletion => exact .inr ⟨id, _, rfl⟩
  | provisionState expected abort => exact .inr ⟨id, _, rfl⟩
  | powerState expected => exact .inr ⟨id, _, rfl⟩
  | allocation ignoreError => exact .inr ⟨id, _, rfl⟩

end Vigil

end ControlPlane
