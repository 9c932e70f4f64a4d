import ControlPlane.Proofs.Wait.Attribute
import Mathlib.Algebra.BigOperators.Group.Finset.Basic

namespace ControlPlane

variable {σ : Type}

def WaitPolicy.due (p : WaitPolicy) (busy : Nat → Nat) (n : Nat) : Nat :=
  n * p.interval + ∑ j ∈ Finset.range n, busy j

def WaitPolicy.InTime (p : WaitPolicy) (busy : Nat → Nat) (n : Nat) : Prop :=
  ∀ limit, p.timeout = some limit → p.due busy n < limit

structure Ticking (σ : Type) where
  ticker : Ticker
  talk : Conversation σ

namespace Ticking

def call (k : Ticking σ) : Except Error Ticker × Conversation σ := k.ticker.next k.talk

def Granted (k : Ticking σ) : Prop := ∃ t, k.call.1 = .ok t

def left (k : Ticking σ) : Ticker :=
  match k.call.1 with
  | .ok t => t
  | .error _ => k.ticker

def next (busy : Nat) (k : Ticking σ) : Ticking σ := ⟨k.left, k.call.2.sleep busy⟩

def nth (busy : Nat → Nat) (k : Ticking σ) : Nat → Ticking σ
  | 0 => k
  | n + 1 => (k.nth busy n).next (busy n)

variable {k : Ticking σ} {busy : Nat → Nat} {n m : Nat}

theorem clock_call (k : Ticking σ) : k.call.2.clock = k.talk.clock + k.ticker.pause := by
  rw [call, Ticker.next]
  split <;> rfl

theorem granted_cases (k : Ticking σ) :
    (k.ticker.expired k.call.2.clock = false ∧ k.call.1 = .ok k.ticker.tick) ∨
    (k.ticker.expired k.call.2.clock = true ∧
      k.call.1 = .error (.resourceTimeout k.ticker.message)) := by
  rcases h : k.call with ⟨e | t, c⟩
  · obtain ⟨hexp, rfl, rfl⟩ := Ticker.eq_of_next_error h
    exact .inr ⟨hexp, rfl⟩
  · obtain ⟨hexp, rfl, rfl⟩ := Ticker.eq_of_next_ok h
    exact .inl ⟨hexp, rfl⟩

theorem granted_iff : k.Granted ↔ k.ticker.expired k.call.2.clock = false := by
  rcases k.granted_cases with ⟨hexp, h⟩ | ⟨hexp, h⟩
  · simp [Granted, h, hexp]
  · simp [Granted, h, hexp]

theorem left_of_granted (h : k.Granted) : k.left = k.ticker.tick := by
  rcases k.granted_cases with ⟨-, hcall⟩ | ⟨hexp, -⟩
  · rw [left, hcall]
  · rw [granted_iff, hexp] at h
    simp at h

theorem left_of_not_granted (h : ¬k.Granted) : k.left = k.ticker := by
  rcases k.granted_cases with ⟨-, hcall⟩ | ⟨-, hcall⟩
  · exact absurd ⟨_, hcall⟩ h
  · rw [left, hcall]

theorem left_eq (k : Ticking σ) : k.left = { k.ticker with count := k.left.count } := by
  by_cases h : k.Granted
  · rw [left_of_granted h]
    rfl
  · rw [left_of_not_granted h]

theorem ticker_nth (busy : Nat → Nat) (k : Ticking σ) (n : Nat) :
    (k.nth busy n).ticker = { k.ticker with count := (k.nth busy n).ticker.count } := by
  induction n with
  | zero => rfl
  | succ n ih =>
      have hleft : (k.nth busy (n + 1)).ticker = (k.nth busy n).left := rfl
      rw [hleft, left_eq, ih]

theorem not_granted_next (h : ¬k.Granted) (busy : Nat) : ¬(k.next busy).Granted := by
  have hlater : k.call.2.clock ≤ (k.next busy).call.2.clock := by
    rw [clock_call (k.next busy), next]
    exact Nat.le_trans (Nat.le_add_right _ busy) (Nat.le_add_right _ _)
  have hticker : (k.next busy).ticker = k.ticker := left_of_not_granted h
  rw [granted_iff, Bool.not_eq_false, Ticker.expired_eq_true_iff] at h ⊢
  obtain ⟨limit, hlimit, hle⟩ := h
  rw [hticker]
  exact ⟨limit, hlimit, by omega⟩

theorem not_granted_of_le (h : ¬(k.nth busy n).Granted) (hm : n ≤ m) :
    ¬(k.nth busy m).Granted := by
  induction hm with
  | refl => exact h
  | step _ ih => exact not_granted_next ih _

theorem count_pos (h : (k.nth busy n).Granted) (hm : n < m) : 0 < (k.nth busy m).ticker.count := by
  induction hm with
  | refl =>
      change 0 < (k.nth busy n).left.count
      rw [left_of_granted h]
      exact Nat.succ_pos _
  | @step m _ ih =>
      change 0 < (k.nth busy m).left.count
      by_cases hm : (k.nth busy m).Granted
      · rw [left_of_granted hm]
        exact Nat.succ_pos _
      · rwa [left_of_not_granted hm]

end Ticking

namespace WaitPolicy

variable {p : WaitPolicy} {busy : Nat → Nat} {n m limit : Nat}

theorem due_succ (p : WaitPolicy) (busy : Nat → Nat) (n : Nat) :
    p.due busy (n + 1) = p.due busy n + busy n + p.interval := by
  rw [due, due, Finset.sum_range_succ, Nat.succ_mul]
  omega

theorem due_le (h : n ≤ m) : p.due busy n ≤ p.due busy m := by
  induction h with
  | refl => exact Nat.le_refl _
  | step _ ih =>
      rw [due_succ]
      omega

theorem inTime_of_le (h : p.InTime busy m) (hn : n ≤ m) : p.InTime busy n := fun limit hl =>
  Nat.lt_of_le_of_lt (due_le hn) (h limit hl)

theorem due_of_idle (h : ∀ j, busy j = 0) (n : Nat) : p.due busy n = n * p.interval := by
  rw [due, Finset.sum_eq_zero fun j _ => h j, Nat.add_zero]

theorem inTime_iff_of_idle (h : ∀ j, busy j = 0) (hi : 0 < p.interval)
    (hl : p.timeout = some limit) : p.InTime busy n ↔ n < limit ⌈/⌉ p.interval := by
  rw [← Wait.inTime_iff_lt_ceilDiv hi hl, InTime, Wait.InTime, due_of_idle h]

theorem ceilDiv_mul_bounds (hi : 0 < p.interval) (limit : Nat) :
    limit ≤ limit ⌈/⌉ p.interval * p.interval ∧
      limit ⌈/⌉ p.interval * p.interval < limit + p.interval := by
  constructor
  · rw [Nat.mul_comm]
    exact (ceilDiv_le_iff_le_mul hi).mp (Nat.le_refl _)
  · rw [Nat.ceilDiv_eq_add_pred_div]
    have := Nat.div_mul_le_self (limit + p.interval - 1) p.interval
    omega

end WaitPolicy

namespace Ticking

variable {p : WaitPolicy} {message : String} {c : Conversation σ} {busy : Nat → Nat} {n : Nat}

def calls (p : WaitPolicy) (message : String) (c : Conversation σ) (busy : Nat → Nat) (n : Nat) :
    Ticking σ := nth busy ⟨.begin p message c, c⟩ n

theorem ticker_calls (p : WaitPolicy) (message : String) (c : Conversation σ) (busy : Nat → Nat)
    (n : Nat) : (calls p message c busy n).ticker =
      { Ticker.begin p message c with count := (calls p message c busy n).ticker.count } :=
  ticker_nth busy ⟨.begin p message c, c⟩ n

theorem granted_iff_elapsed : (calls p message c busy n).Granted ↔
    ∀ limit, p.timeout = some limit → (calls p message c busy n).call.2.clock - c.clock < limit := by
  rw [granted_iff, Ticker.expired_eq_false_iff, ticker_calls]
  rfl

theorem onSchedule (h : ∀ m < n, p.InTime busy m) :
    (calls p message c busy n).ticker.count = n ∧
      (calls p message c busy n).call.2.clock = c.clock + p.due busy n := by
  induction n with
  | zero =>
      refine ⟨rfl, ?_⟩
      rw [clock_call]
      simp [calls, nth, Ticker.begin, Ticker.pause, WaitPolicy.due]
  | succ n ih =>
      obtain ⟨hcount, hclock⟩ := ih fun m hm => h m (Nat.lt_succ_of_lt hm)
      have hgranted : (calls p message c busy n).Granted := by
        rw [granted_iff_elapsed, hclock, Nat.add_sub_cancel_left]
        exact h n (Nat.lt_succ_self n)
      have hticker : (calls p message c busy (n + 1)).ticker =
          (calls p message c busy n).ticker.tick := left_of_granted hgranted
      have hcount' : (calls p message c busy (n + 1)).ticker.count = n + 1 := by
        rw [hticker, Ticker.tick, hcount]
      refine ⟨hcount', ?_⟩
      have htalk : (calls p message c busy (n + 1)).talk.clock =
          (calls p message c busy n).call.2.clock + busy n := rfl
      have hpause : (calls p message c busy (n + 1)).ticker.pause = p.interval := by
        rw [Ticker.pause, hcount', if_neg (Nat.succ_ne_zero n), ticker_calls]
        rfl
      rw [clock_call, htalk, hclock, hpause, WaitPolicy.due_succ]
      omega

theorem granted_of_inTime (h : p.InTime busy n) : (calls p message c busy n).Granted := by
  have hall : ∀ m < n, p.InTime busy m := fun m hm => WaitPolicy.inTime_of_le h (Nat.le_of_lt hm)
  rw [granted_iff_elapsed, (onSchedule hall).2, Nat.add_sub_cancel_left]
  exact h

theorem inTime_of_granted (h : (calls p message c busy n).Granted) : p.InTime busy n := by
  induction n with
  | zero =>
      rw [granted_iff_elapsed, (onSchedule (by simp)).2, Nat.add_sub_cancel_left] at h
      exact h
  | succ n ih =>
      -- a look is granted only after all before it, so it comes when the schedule says
      have hbefore : (calls p message c busy n).Granted := Classical.byContradiction fun hnot =>
        not_granted_next hnot (busy n) h
      have hall : ∀ m < n + 1, p.InTime busy m := fun m hm =>
        WaitPolicy.inTime_of_le (ih hbefore) (Nat.le_of_lt_succ hm)
      rw [granted_iff_elapsed, (onSchedule hall).2, Nat.add_sub_cancel_left] at h
      exact h

theorem granted_iff_inTime : (calls p message c busy n).Granted ↔ p.InTime busy n :=
  ⟨inTime_of_granted, granted_of_inTime⟩

structure OnSchedule (p : WaitPolicy) (message : String) (c : Conversation σ) (busy : Nat → Nat) :
    Prop where
  atOnce : (calls p message c busy 0).call.2.clock = c.clock
  sleeps : ∀ m n, m < n → (calls p message c busy m).Granted →
    (calls p message c busy n).call.2.clock = (calls p message c busy n).talk.clock + p.interval
  granted_iff : ∀ n, (calls p message c busy n).Granted ↔ ∀ limit, p.timeout = some limit →
    n * p.interval + ∑ j ∈ Finset.range n, busy j < limit
  numbered : ∀ n t, (calls p message c busy n).call.1 = .ok t → t.count = n + 1 ∧
    (calls p message c busy n).call.2.clock =
      c.clock + (n * p.interval + ∑ j ∈ Finset.range n, busy j)
  exhausted : ∀ m n e, m ≤ n → (calls p message c busy m).call.1 = .error e →
    (calls p message c busy n).call.1 = .error (.resourceTimeout message)
  unhurried : (∀ j, busy j = 0) → ∀ limit, p.timeout = some limit →
    (∀ n, (calls p message c busy n).Granted ↔ n < limit ⌈/⌉ p.interval) ∧
    (calls p message c busy (limit ⌈/⌉ p.interval)).call.1 = .error (.resourceTimeout message) ∧
    (calls p message c busy (limit ⌈/⌉ p.interval)).call.2.clock =
      c.clock + limit ⌈/⌉ p.interval * p.interval ∧
    limit ≤ limit ⌈/⌉ p.interval * p.interval ∧
    limit ⌈/⌉ p.interval * p.interval < limit + p.interval

theorem refused_of_not_granted (h : ¬(calls p message c busy n).Granted) :
    (calls p message c busy n).call.1 = .error (.resourceTimeout message) := by
  rcases (calls p message c busy n).granted_cases with ⟨-, hcall⟩ | ⟨-, hcall⟩
  · exact absurd ⟨_, hcall⟩ h
  · rw [hcall, ticker_calls]
    rfl

theorem ticker_keeps_schedule {p : WaitPolicy} (hi : 0 < p.interval) (message : String)
    (c : Conversation σ) (busy : Nat → Nat) : OnSchedule p message c busy where
  atOnce := by
    rw [(onSchedule (by simp)).2]
    simp [WaitPolicy.due]
  sleeps m n hm hgranted := by
    have hpos : 0 < (calls p message c busy n).ticker.count := count_pos hgranted hm
    rw [clock_call, Ticker.pause, if_neg (Nat.ne_of_gt hpos), ticker_calls]
    rfl
  granted_iff n := granted_iff_inTime
  numbered n t ht := by
    have hgranted : (calls p message c busy n).Granted := ⟨t, ht⟩
    have hall : ∀ m < n, p.InTime busy m := fun m hm =>
      WaitPolicy.inTime_of_le (inTime_of_granted hgranted) (Nat.le_of_lt hm)
    refine ⟨?_, (onSchedule hall).2⟩
    have hleft : (calls p message c busy n).left = t := by rw [left, ht]
    rw [← hleft, left_of_granted hgranted, Ticker.tick, (onSchedule hall).1]
  exhausted m n e hm he := by
    have hnot : ¬(calls p message c busy m).Granted := by
      rintro ⟨t, ht⟩
      rw [ht] at he
      simp at he
    exact refused_of_not_granted (not_granted_of_le hnot hm)
  unhurried hidle limit hl := by
    have hgranted : ∀ n, (calls p message c busy n).Granted ↔ n < limit ⌈/⌉ p.interval :=
      fun n => granted_iff_inTime.trans (WaitPolicy.inTime_iff_of_idle hidle hi hl)
    refine ⟨hgranted, ?_, ?_, WaitPolicy.ceilDiv_mul_bounds hi limit⟩
    · exact refused_of_not_granted (mt (hgranted _).mp (Nat.lt_irrefl _))
    · rw [(onSchedule fun m hm => (WaitPolicy.inTime_iff_of_idle hidle hi hl).mpr hm).2,
        WaitPolicy.due_of_idle hidle]

theorem hasty_ticker_keeps_schedule :
    let p : WaitPolicy := ⟨1000, some 2500⟩
    let c : Conversation (List Reply) := { peer := [] }
    let call (n : Nat) := (calls p "too late" c (100 * ·) n).call
    0 < p.interval ∧ OnSchedule p "too late" c (100 * ·) ∧
      (List.range 4).map (fun n => ((call n).1.map Ticker.count, (call n).2.clock)) =
        [(.ok 1, 0), (.ok 2, 1000), (.ok 3, 2100), (.error (.resourceTimeout "too late"), 3300)] :=
  ⟨by decide, ticker_keeps_schedule (by decide) .., by decide +kernel⟩

end Ticking

end ControlPlane
