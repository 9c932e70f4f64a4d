import ControlPlane.Proofs.Wait.Stop
import ControlPlane.Proofs.Wait.Vigil
import ControlPlane.Service.Volume
import Mathlib.Algebra.Order.Floor.Div

namespace ControlPlane

variable {σ : Type}

def Session.Instant (s : Session σ) : Prop := ∀ q peer, (s.answer q peer).duration = 0

namespace Look

variable {s : Session σ} {k : Look σ}

theorem clock_after_of_instant (hs : s.Instant) (k : Look σ) : (k.after s).clock = k.talk.clock := by
  rw [after, fetch, Resource.perform]
  rcases k.seen.plan .fetch with e | (_ | q)
  · rfl
  · rfl
  · have hq : (s.request q k.talk).2.clock = k.talk.clock := by
      change k.talk.clock + (s.answer (s.dress q) k.talk.peer).duration = _
      rw [hs]
      rfl
    rcases h : s.request q k.talk with ⟨_ | _, _⟩ <;> simpa [h] using hq

theorem clock_nth_of_instant (hs : s.Instant) (interval : Nat) (k : Look σ) (n : Nat) :
    (k.nth s interval n).talk.clock = k.talk.clock + n * interval := by
  induction n with
  | zero => simp [nth]
  | succ n ih =>
      have hnext : (k.nth s interval (n + 1)).talk.clock =
          ((k.nth s interval n).after s).clock + interval := by
        rw [nth_succ]
        rfl
      rw [hnext, clock_after_of_instant hs, ih, Nat.succ_mul, Nat.add_assoc]

theorem asked_of_answer {r : Resource} (h : k.answer s = .ok r) : ∃ uri response,
    k.seen.FoundAt uri ∧
    k.sent s = [⟨k.talk.clock, s.dress (k.seen.schema.bareRequest .get uri)⟩] ∧
    (s.request (k.seen.schema.bareRequest .get uri) k.talk).1 = .ok response ∧
    r = k.seen.absorb .fetch response := by
  have hready : k.seen.Ready .fetch := by
    apply Classical.byContradiction
    intro hnot
    obtain ⟨e, -, -, he, -⟩ := fetch_of_not_ready s hnot
    simp [h] at he
  obtain ⟨uri, hu, hsent⟩ := sent_of_ready s hready
  rw [answer, fetch, Resource.perform_fetch hready.permitted hu.path] at h
  rcases hr : (s.request (k.seen.schema.bareRequest .get uri) k.talk).1 with e | response
  · simp [hr, Except.map] at h
  · simp only [hr, Except.map, Except.ok.injEq] at h
    exact ⟨uri, response, hu, hsent, hr, h.symm⟩

end Look

namespace Wait

inductive Target.Decides (t : Target) (who : String) :
    Except Error Resource → Except Error Unit → Prop
  | reached {r} (h : lowered? r t.name = some (Text.lowercase t.status)) :
      Decides t who (.ok r) (.ok ())
  | failed {r current} (h : lowered? r t.name = some current)
      (hne : current ≠ Text.lowercase t.status)
      (hin : ∃ failure ∈ t.failures, Text.lowercase failure = current) :
      Decides t who (.ok r)
        (.error (.resourceFailure (who ++ " transitioned to failure state " ++ current)))
  | gone {e} (h : e.isNotFound = true) :
      Decides t who (.error e)
        (.error (.resourceFailure (who ++ " went away while waiting for " ++ t.status)))
  | refused {e} (h : e.isNotFound = false) : Decides t who (.error e) (.error e)

theorem settles?_of_decides {t : Target} {r₀ : Resource} {answer : Except Error Resource}
    {result : Except Error Unit} (h : t.Decides (describe r₀) answer result) :
    ((Vigil.target t).watch r₀).settles? answer = some result := by
  cases h with
  | @reached r h =>
      have hj : t.judge (describe r₀) r = .reached := if_pos (beq_iff_eq.mpr h)
      simp only [Watch.settles?, Vigil.watch, hj]
  | @failed r current h hne hin =>
      have hr : ¬t.reached r = true := fun hr =>
        hne (Option.some.inj (h.symm.trans (beq_iff_eq.mp hr)))
      have hj : t.judge (describe r₀) r = .failed (.resourceFailure
          (describe r₀ ++ " transitioned to failure state " ++ current)) := by
        rw [Target.judge, if_neg hr, Vigil.failure?_eq_some_iff.mpr ⟨h, hin⟩]
      simp only [Watch.settles?, Vigil.watch, hj]
  | gone h => exact congrArg some (if_pos h)
  | refused h => exact congrArg some (if_neg (Bool.eq_false_iff.mp h))

theorem decides_of_settles? {t : Target} {r₀ : Resource} {answer : Except Error Resource}
    {result : Except Error Unit}
    (h : ((Vigil.target t).watch r₀).settles? answer = some result) :
    t.Decides (describe r₀) answer result := by
  have hsame : ∀ {other}, t.Decides (describe r₀) answer other → other = result := fun hd =>
    Option.some.inj ((settles?_of_decides hd).symm.trans h)
  cases answer with
  | error e =>
      cases hn : e.isNotFound with
      | true => exact hsame (.gone hn) ▸ .gone hn
      | false => exact hsame (.refused hn) ▸ .refused hn
  | ok r =>
      by_cases hr : lowered? r t.name = some (Text.lowercase t.status)
      · exact hsame (.reached hr) ▸ .reached hr
      · have hnot : ¬t.reached r = true := mt beq_iff_eq.mp hr
        cases hf : t.failure? r with
        | some current =>
            obtain ⟨hl, hin⟩ := Vigil.failure?_eq_some_iff.mp hf
            have hne : current ≠ Text.lowercase t.status := fun he => hr (he ▸ hl)
            exact hsame (.failed hl hne hin) ▸ .failed hl hne hin
        | none =>
            have hj : t.judge (describe r₀) r = .pending := by
              rw [Target.judge, if_neg hnot, hf]
            simp only [Watch.settles?, Vigil.watch, hj] at h
            simp at h

theorem decides_iff {t : Target} {r₀ : Resource} {answer : Except Error Resource}
    {result : Except Error Unit} :
    ((Vigil.target t).watch r₀).settles? answer = some result ↔
      t.Decides (describe r₀) answer result :=
  ⟨decides_of_settles?, settles?_of_decides⟩

def Target.LeavesOpen (t : Target) (s : Session σ) (r : Resource) (k : Look σ) : Prop :=
  ∀ result, ¬t.Decides (describe r) (k.answer s) result

def InTime (p : WaitPolicy) (n : Nat) : Prop :=
  ∀ limit, p.timeout = some limit → n * p.interval < limit

structure DecidedByFirst (s : Session σ) (t : Target) (p : WaitPolicy) (r : Resource)
    (c : Conversation σ) : Prop where
  atOnce : lowered? r t.name = some (Text.lowercase t.status) →
    forAttribute s t p r c = ((.ok (), r), c)
  timed : ∀ n, (lookAt s p r c n).talk.clock = c.clock + n * p.interval
  merged : ∀ n r', (lookAt s p r c n).answer s = .ok r' → ∃ uri response,
    (lookAt s p r c n).seen.FoundAt uri ∧
    (lookAt s p r c n).sent s =
      [⟨c.clock + n * p.interval, s.dress ((lookAt s p r c n).seen.schema.bareRequest .get uri)⟩] ∧
    (s.request ((lookAt s p r c n).seen.schema.bareRequest .get uri) (lookAt s p r c n).talk).1 =
      .ok response ∧
    r' = (lookAt s p r c n).seen.absorb .fetch response ∧ (lookAt s p r c (n + 1)).seen = r'
  decided : lowered? r t.name ≠ some (Text.lowercase t.status) → ∀ n result, InTime p n →
    (∀ j < n, t.LeavesOpen s r (lookAt s p r c j)) →
    t.Decides (describe r) ((lookAt s p r c n).answer s) result →
    forAttribute s t p r c = ((result, (lookAt s p r c n).left s), (lookAt s p r c n).after s) ∧
    ((lookAt s p r c n).after s).sent =
      c.sent ++ (List.range (n + 1)).flatMap fun j => (lookAt s p r c j).sent s
  late : lowered? r t.name ≠ some (Text.lowercase t.status) → ∀ limit, p.timeout = some limit →
    (∀ n, InTime p n → t.LeavesOpen s r (lookAt s p r c n)) →
    ∃ c', forAttribute s t p r c = ((.error (.resourceTimeout
        ("Timeout waiting for " ++ describe r ++ " to transition to " ++ t.status)),
        (lookAt s p r c (limit ⌈/⌉ p.interval)).seen), c') ∧
      c'.clock = c.clock + (limit ⌈/⌉ p.interval) * p.interval ∧
      c'.sent = c.sent ++ (List.range (limit ⌈/⌉ p.interval)).flatMap (fun j =>
        (lookAt s p r c j).sent s) ∧
      c'.sent.length = c.sent.length + limit ⌈/⌉ p.interval
  ends : lowered? r t.name ≠ some (Text.lowercase t.status) →
    (∃ n result, InTime p n ∧ (∀ j < n, t.LeavesOpen s r (lookAt s p r c j)) ∧
      t.Decides (describe r) ((lookAt s p r c n).answer s) result) ∨
    ∃ limit, p.timeout = some limit ∧
      ∀ n, InTime p n → t.LeavesOpen s r (lookAt s p r c n)

section

variable {s : Session σ} {t : Target} {p : WaitPolicy} {r : Resource} {c : Conversation σ}

theorem clock_lookAt (hs : s.Instant) (p : WaitPolicy) (r : Resource) (c : Conversation σ) (n : Nat) :
    (lookAt s p r c n).talk.clock = c.clock + n * p.interval :=
  Look.clock_nth_of_instant hs ..

theorem not_spent_iff_inTime (hs : s.Instant) {n : Nat} :
    ¬p.Spent c.clock (lookAt s p r c n).talk.clock ↔ InTime p n := by
  rw [clock_lookAt hs, WaitPolicy.Spent, InTime, Nat.add_sub_cancel_left]
  simp

theorem leavesOpen_iff {k : Look σ} :
    t.LeavesOpen s r k ↔ ((Vigil.target t).watch r).settles? (k.answer s) = none := by
  rw [Option.eq_none_iff_forall_ne_some]
  exact forall_congr' fun _ => not_congr decides_iff.symm

theorem goesOn_iff (hs : s.Instant) {n : Nat} :
    ((Vigil.target t).watch r).GoesOn s p c.clock (lookAt s p r c n) ↔
      InTime p n ∧ t.LeavesOpen s r (lookAt s p r c n) := by
  rw [Watch.GoesOn, not_spent_iff_inTime hs, leavesOpen_iff]

theorem inTime_of_le {n m : Nat} (h : InTime p n) (hm : m ≤ n) : InTime p m := fun limit hl =>
  Nat.lt_of_le_of_lt (Nat.mul_le_mul_right _ hm) (h limit hl)

theorem inTime_iff_lt_ceilDiv {limit n : Nat} (hi : 0 < p.interval) (hl : p.timeout = some limit) :
    InTime p n ↔ n < limit ⌈/⌉ p.interval := by
  rw [← Nat.not_le, ceilDiv_le_iff_le_mul hi, Nat.not_le, Nat.mul_comm, InTime, hl]
  simp

theorem forAttribute_of_not_reached (h : lowered? r t.name ≠ some (Text.lowercase t.status)) :
    forAttribute s t p r c = poll s ((Vigil.target t).watch r)
      (.begin p ("Timeout waiting for " ++ describe r ++ " to transition to " ++ t.status) c) r c :=
  if_neg (mt beq_iff_eq.mp h)

theorem length_sent_lookAt {n : Nat}
    (h : ∀ j < n, t.LeavesOpen s r (lookAt s p r c j)) :
    ((List.range n).flatMap fun j => (lookAt s p r c j).sent s).length = n := by
  induction n with
  | zero => rfl
  | succ n ih =>
      obtain ⟨ha, -⟩ := answer_of_open (leavesOpen_iff.mp (h n (Nat.lt_succ_self n)))
      obtain ⟨uri, -, -, hsent, -, -⟩ := Look.asked_of_answer ha
      rw [List.range_succ, List.flatMap_append, List.length_append, List.flatMap_singleton, hsent,
        ih fun j hj => h j (Nat.lt_succ_of_lt hj)]
      rfl

end

theorem wait_decided_by_first {s : Session σ} {p : WaitPolicy} (hs : s.Instant) (hi : 0 < p.interval)
    (t : Target) (r : Resource) (c : Conversation σ) : DecidedByFirst s t p r c where
  atOnce h := if_pos (beq_iff_eq.mpr h)
  timed := clock_lookAt hs p r c
  merged n r' ha := by
    obtain ⟨uri, response, hu, hsent, hr, habsorb⟩ := Look.asked_of_answer ha
    refine ⟨uri, response, hu, ?_, hr, habsorb, ?_⟩
    · rw [hsent, clock_lookAt hs]
    · rw [lookAt, Look.nth_succ]
      exact Look.left_of_ok ha
  decided h n result htime hopen hd := by
    rw [forAttribute_of_not_reached h]
    refine ⟨poll_of_first ?_ (.settled ((not_spent_iff_inTime hs).mpr htime) (decides_iff.mpr hd)),
      Look.sent_after_nth ..⟩
    intro j hj
    exact (goesOn_iff hs).mpr ⟨inTime_of_le htime (Nat.le_of_lt hj), hopen j hj⟩
  late h limit hl hopen := by
    have hbefore : ∀ j < limit ⌈/⌉ p.interval, InTime p j := fun j =>
      (inTime_iff_lt_ceilDiv hi hl).mpr
    have hspent : p.Spent c.clock (lookAt s p r c (limit ⌈/⌉ p.interval)).talk.clock := by
      rw [← Classical.not_not (a := p.Spent ..), not_spent_iff_inTime hs,
        inTime_iff_lt_ceilDiv hi hl]
      exact Nat.lt_irrefl _
    have hsent : (lookAt s p r c (limit ⌈/⌉ p.interval)).talk.sent = c.sent ++
        (List.range (limit ⌈/⌉ p.interval)).flatMap fun j => (lookAt s p r c j).sent s :=
      Look.sent_nth ..
    rw [forAttribute_of_not_reached h]
    refine ⟨_, poll_of_first (fun j hj => ?_) (.spent hspent), clock_lookAt hs .., hsent, ?_⟩
    · exact (goesOn_iff hs).mpr ⟨hbefore j hj, hopen j (hbefore j hj)⟩
    · rw [hsent, List.length_append, length_sent_lookAt fun j hj => hopen j (hbefore j hj)]
  ends h := by
    obtain ⟨n, ending, c', -, hopen, hstops⟩ := poll_stops s ((Vigil.target t).watch r) p "" r c
    have hall : ∀ j < n, t.LeavesOpen s r (lookAt s p r c j) := fun j hj =>
      ((goesOn_iff hs).mp (hopen j hj)).2
    cases hstops with
    | settled htime hsettled =>
        exact .inl ⟨n, _, (not_spent_iff_inTime hs).mp htime, hall, decides_iff.mp hsettled⟩
    | spent hspent =>
        obtain ⟨limit, hl, hle⟩ := hspent
        refine .inr ⟨limit, hl, fun m hm => hall m ?_⟩
        -- a look that is in time comes before the one that finds no time left
        apply Classical.byContradiction
        intro hnot
        have htime := inTime_of_le hm (Nat.not_lt.mp hnot)
        exact (not_spent_iff_inTime hs).mpr htime ⟨limit, hl, hle⟩

theorem replay_instant : Session.replay.Instant := by
  intro q replies
  match replies with
  | [] | .success _ :: _ | .failure _ _ :: _ => rfl

def volumeReply (status : String) : Reply :=
  .success { status := 200, body := some (.record [("volume", .record [("status", .text status)])]) }

theorem volume_decided_by_first :
    let p : WaitPolicy := ⟨1000, some 2500⟩
    let r : Resource := .withId Volume.schema "v1"
    let c : Conversation (List Reply) :=
      { peer := [volumeReply "creating", volumeReply "ERROR", .success { status := 200 }] }
    let waited := forAttribute .replay { status := "Error" } p r c
    Session.replay.Instant ∧ 0 < p.interval ∧ DecidedByFirst .replay { status := "Error" } p r c ∧
      waited.1.1 = .ok () ∧ waited.2.sent.map (fun q => (q.time, q.request.method, q.request.url)) =
        [(0, .get, "/volumes/v1"), (1000, .get, "/volumes/v1")] :=
  ⟨replay_instant, by decide, wait_decided_by_first replay_instant (by decide) ..,
    by decide +kernel, by decide +kernel⟩

end Wait

end ControlPlane
