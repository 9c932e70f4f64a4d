import ControlPlane.Proofs.Wait.Course
import Mathlib.Logic.Function.Iterate

namespace ControlPlane

variable {σ : Type}

namespace Look

variable {s : Session σ} {k : Look σ}

def next (s : Session σ) (interval : Nat) (k : Look σ) : Look σ :=
  ⟨k.left s, (k.after s).sleep interval⟩

def nth (s : Session σ) (interval n : Nat) (k : Look σ) : Look σ := (next s interval)^[n] k

theorem nth_succ (s : Session σ) (interval n : Nat) (k : Look σ) :
    k.nth s interval (n + 1) = (k.nth s interval n).next s interval :=
  Function.iterate_succ_apply' ..

theorem sent_nth (s : Session σ) (interval : Nat) (k : Look σ) (n : Nat) :
    (k.nth s interval n).talk.sent =
      k.talk.sent ++ (List.range n).flatMap fun j => (k.nth s interval j).sent s := by
  induction n with
  | zero => exact (List.append_nil _).symm
  | succ n ih =>
      have hnext : (k.nth s interval (n + 1)).talk.sent = ((k.nth s interval n).after s).sent := by
        rw [nth_succ]
        rfl
      rw [hnext, sent_after, ih, List.range_succ, List.flatMap_append, List.append_assoc,
        List.flatMap_singleton]

theorem sent_after_nth (s : Session σ) (interval : Nat) (k : Look σ) (n : Nat) :
    ((k.nth s interval n).after s).sent =
      k.talk.sent ++ (List.range (n + 1)).flatMap fun j => (k.nth s interval j).sent s := by
  rw [← sent_nth, nth_succ]
  rfl

theorem sent_prefix_nth (s : Session σ) (interval : Nat) (k : Look σ) {n m : Nat} (h : n ≤ m) :
    (k.nth s interval n).talk.sent <+: (k.nth s interval m).talk.sent := by
  induction h with
  | refl => exact List.prefix_rfl
  | @step m _ ih =>
      refine ih.trans ?_
      rw [nth_succ]
      change _ <+: ((k.nth s interval m).after s).sent
      rw [sent_after]
      exact List.prefix_append ..

end Look

def Wait.lookAt (s : Session σ) (p : WaitPolicy) (r : Resource) (c : Conversation σ) (n : Nat) :
    Look σ := Look.nth s p.interval n ⟨r, c⟩

def WaitPolicy.Spent (p : WaitPolicy) (start now : Nat) : Prop :=
  ∃ limit, p.timeout = some limit ∧ limit ≤ now - start

def Watch.GoesOn (w : Watch) (s : Session σ) (p : WaitPolicy) (start : Nat) (k : Look σ) : Prop :=
  ¬p.Spent start k.talk.clock ∧ w.settles? (k.answer s) = none

inductive Watch.StopsAt (w : Watch) (s : Session σ) (p : WaitPolicy) (start : Nat) (message : String)
    (k : Look σ) : Settled → Conversation σ → Prop
  | spent (h : p.Spent start k.talk.clock) :
      StopsAt w s p start message k (.error (.resourceTimeout message), k.seen) k.talk
  | settled {result} (h : ¬p.Spent start k.talk.clock)
      (hs : w.settles? (k.answer s) = some result) :
      StopsAt w s p start message k (result, k.left s) (k.after s)

theorem Ticker.expired_iff_spent {t : Ticker} {now : Nat} :
    t.expired now = true ↔ t.policy.Spent t.start now := Ticker.expired_eq_true_iff

section

variable {s : Session σ} {w : Watch} {t : Ticker} {r : Resource} {c c' : Conversation σ}
  {ending : Settled}

theorem poll_of_stopsAt
    (h : w.StopsAt s t.policy t.start t.message (t.look r c) ending c') :
    poll s w t r c = (ending, c') := by
  rw [poll_eq]
  cases h with
  | spent h => exact if_pos (Ticker.expired_iff_spent.mpr h)
  | settled h hs => rw [if_neg (mt Ticker.expired_iff_spent.mp h), hs]

theorem poll_of_goesOn (h : w.GoesOn s t.policy t.start (t.look r c)) :
    poll s w t r c = poll s w t.tick ((t.look r c).left s) ((t.look r c).after s) := by
  rw [poll_eq, if_neg (mt Ticker.expired_iff_spent.mp h.1), h.2]

theorem poll_of_stops (n : Nat) : ∀ {t : Ticker} {r : Resource} {c : Conversation σ},
    (∀ j < n, w.GoesOn s t.policy t.start ((t.look r c).nth s t.policy.interval j)) →
    w.StopsAt s t.policy t.start t.message ((t.look r c).nth s t.policy.interval n) ending c' →
      poll s w t r c = (ending, c') := by
  induction n with
  | zero => intro t r c _ hstops; exact poll_of_stopsAt hstops
  | succ n ih =>
      intro t r c hopen hstops
      rw [poll_of_goesOn (hopen 0 (Nat.zero_lt_succ n))]
      -- the looks from the second one on are those of the same ticker after one tick
      exact ih (fun j hj => hopen (j + 1) (Nat.succ_lt_succ hj)) hstops

theorem Watch.Course.stops {looks : List (Look σ)} (h : w.Course s t r c looks ending c') :
    ∃ n, (∀ j < n, w.GoesOn s t.policy t.start ((t.look r c).nth s t.policy.interval j)) ∧
      w.StopsAt s t.policy t.start t.message ((t.look r c).nth s t.policy.interval n) ending c' := by
  induction h with
  | expired h => exact ⟨0, by simp, .spent (Ticker.expired_iff_spent.mp h)⟩
  | settled h hs =>
      exact ⟨0, by simp, .settled (mt Ticker.expired_iff_spent.mpr (Bool.eq_false_iff.mp h)) hs⟩
  | goesOn h hs _ ih =>
      obtain ⟨n, hopen, hstops⟩ := ih
      refine ⟨n + 1, ?_, hstops⟩
      intro j hj
      cases j with
      | zero => exact ⟨mt Ticker.expired_iff_spent.mpr (Bool.eq_false_iff.mp h), hs⟩
      | succ j => exact hopen j (Nat.lt_of_succ_lt_succ hj)

end

section

variable {s : Session σ} {w : Watch} {p : WaitPolicy} {message : String} {r : Resource}
  {c c' : Conversation σ} {ending : Settled}

theorem poll_stops (s : Session σ) (w : Watch) (p : WaitPolicy) (message : String) (r : Resource)
    (c : Conversation σ) : ∃ n ending c', poll s w (.begin p message c) r c = (ending, c') ∧
      (∀ j < n, w.GoesOn s p c.clock (Wait.lookAt s p r c j)) ∧
      w.StopsAt s p c.clock message (Wait.lookAt s p r c n) ending c' := by
  obtain ⟨looks, h⟩ := poll_course s w _ (.begin p message c) r c rfl
  obtain ⟨n, hopen, hstops⟩ := h.stops
  exact ⟨n, _, _, rfl, hopen, hstops⟩

theorem poll_of_first {n : Nat} (hopen : ∀ j < n, w.GoesOn s p c.clock (Wait.lookAt s p r c j))
    (hstops : w.StopsAt s p c.clock message (Wait.lookAt s p r c n) ending c') :
    poll s w (.begin p message c) r c = (ending, c') :=
  poll_of_stops n (t := .begin p message c) hopen hstops

theorem Watch.StopsAt.not_goesOn {start : Nat} {k : Look σ}
    (h : w.StopsAt s p start message k ending c') : ¬w.GoesOn s p start k := by
  rintro ⟨hspent, hopen⟩
  cases h with
  | spent h => exact hspent h
  | settled _ hs => simp [hopen] at hs

end

end ControlPlane
