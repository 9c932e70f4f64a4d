import ControlPlane.Proofs.Wait.Look
import ControlPlane.Wait

namespace ControlPlane

variable {σ : Type}

def Watch.settles? (w : Watch) : Except Error Resource → Option (Except Error Unit)
  | .error e => some (w.onError e)
  | .ok r =>
      match w.judge r with
      | .reached => some (.ok ())
      | .failed e => some (.error e)
      | .pending => none

namespace Ticker

def look (t : Ticker) (r : Resource) (c : Conversation σ) : Look σ := ⟨r, c.sleep t.pause⟩

def tick (t : Ticker) : Ticker := { t with count := t.count + 1 }

theorem eq_of_next_error {t : Ticker} {c c' : Conversation σ} {e : Error}
    (h : t.next c = (.error e, c')) : t.expired (c.sleep t.pause).clock = true ∧
      e = .resourceTimeout t.message ∧ c' = c.sleep t.pause := by
  simp only [next] at h
  split at h
  · rename_i hexp
    simp only [Prod.mk.injEq, Except.error.injEq] at h
    exact ⟨hexp, h.1.symm, h.2.symm⟩
  · simp at h

theorem eq_of_next_ok {t t' : Ticker} {c c' : Conversation σ} (h : t.next c = (.ok t', c')) :
    t.expired (c.sleep t.pause).clock = false ∧ t' = t.tick ∧ c' = c.sleep t.pause := by
  simp only [next] at h
  split at h
  · simp at h
  · rename_i hexp
    simp only [Prod.mk.injEq, Except.ok.injEq] at h
    exact ⟨Bool.eq_false_iff.mpr hexp, h.1.symm, h.2.symm⟩

theorem expired_eq_false_iff {t : Ticker} {now : Nat} :
    t.expired now = false ↔ ∀ limit, t.policy.timeout = some limit → now - t.start < limit := by
  rw [expired]
  cases t.policy.timeout with
  | none => simp
  | some limit => simp

theorem expired_eq_true_iff {t : Ticker} {now : Nat} :
    t.expired now = true ↔ ∃ limit, t.policy.timeout = some limit ∧ limit ≤ now - t.start := by
  rw [expired]
  cases t.policy.timeout with
  | none => simp
  | some limit => simp

end Ticker

theorem poll_eq (s : Session σ) (w : Watch) (t : Ticker) (r : Resource) (c : Conversation σ) :
    poll s w t r c =
      if t.expired (t.look r c).talk.clock then
        ((.error (.resourceTimeout t.message), r), (t.look r c).talk)
      else
        match w.settles? ((t.look r c).answer s) with
        | some result => ((result, (t.look r c).left s), (t.look r c).after s)
        | none => poll s w t.tick ((t.look r c).left s) ((t.look r c).after s) := by
  rw [poll]
  split
  · rename_i ht
    obtain ⟨hexp, rfl, rfl⟩ := Ticker.eq_of_next_error ht
    rw [Ticker.look, if_pos hexp]
  · rename_i ht
    obtain ⟨hexp, rfl, rfl⟩ := Ticker.eq_of_next_ok ht
    have hlook : ¬t.expired (t.look r c).talk.clock = true := Bool.eq_false_iff.mp hexp
    rw [if_neg hlook]
    split
    · rename_i e c' hf
      have hl : (t.look r c).fetch s = (.error e, c') := hf
      simp only [Look.answer, Look.left, Look.after, hl, Watch.settles?]
      rfl
    · rename_i r' c' hf
      have hl : (t.look r c).fetch s = (.ok r', c') := hf
      simp only [Look.answer, Look.left, Look.after, hl, Watch.settles?]
      cases w.judge r' <;> rfl

inductive Watch.Course (w : Watch) (s : Session σ) :
    Ticker → Resource → Conversation σ → List (Look σ) → Settled → Conversation σ → Prop
  | expired {t r c} (h : t.expired (t.look r c).talk.clock = true) :
      Course w s t r c [] (.error (.resourceTimeout t.message), r) (t.look r c).talk
  | settled {t r c result} (h : t.expired (t.look r c).talk.clock = false)
      (hs : w.settles? ((t.look r c).answer s) = some result) :
      Course w s t r c [t.look r c] (result, (t.look r c).left s) ((t.look r c).after s)
  | goesOn {t r c looks ending c'} (h : t.expired (t.look r c).talk.clock = false)
      (hs : w.settles? ((t.look r c).answer s) = none)
      (rest : Course w s t.tick ((t.look r c).left s) ((t.look r c).after s) looks ending c') :
      Course w s t r c (t.look r c :: looks) ending c'

theorem answer_of_open {s : Session σ} {w : Watch} {k : Look σ}
    (h : w.settles? (k.answer s) = none) :
    k.answer s = .ok (k.left s) ∧ w.judge (k.left s) = .pending := by
  cases ha : k.answer s with
  | error e => simp [ha, Watch.settles?] at h
  | ok r =>
      rw [Look.left_of_ok ha]
      refine ⟨rfl, ?_⟩
      cases hj : w.judge r with
      | reached => simp [ha, Watch.settles?, hj] at h
      | failed e => simp [ha, Watch.settles?, hj] at h
      | pending => rfl

theorem poll_course (s : Session σ) (w : Watch) (n : Nat) :
    ∀ (t : Ticker) (r : Resource) (c : Conversation σ), s.supply c.peer = n →
      ∃ looks, w.Course s t r c looks (poll s w t r c).1 (poll s w t r c).2 := by
  -- every answer that leaves the matter open uses up some of the far end's supply
  induction n using Nat.strongRecOn with
  | ind n ih =>
      intro t r c hn
      rw [poll_eq]
      cases hexp : t.expired (t.look r c).talk.clock with
      | true => exact ⟨[], .expired hexp⟩
      | false =>
          rw [if_neg (by simp)]
          cases hs : w.settles? ((t.look r c).answer s) with
          | some result => exact ⟨_, .settled hexp hs⟩
          | none =>
              have hlt : s.supply ((t.look r c).after s).peer < n :=
                hn ▸ Look.supply_after_lt (answer_of_open hs).1
              obtain ⟨looks, hrest⟩ := ih _ hlt t.tick ((t.look r c).left s) _ rfl
              exact ⟨_, .goesOn hexp hs hrest⟩

namespace Watch.Course

variable {s : Session σ} {w : Watch} {t : Ticker} {r : Resource} {c c' : Conversation σ}
  {looks : List (Look σ)} {ending : Settled}

theorem sent (h : w.Course s t r c looks ending c') :
    c'.sent = c.sent ++ looks.flatMap (Look.sent s) := by
  induction h with
  | expired _ => exact (List.append_nil _).symm
  | settled _ _ =>
      rw [Look.sent_after, List.flatMap_cons, List.flatMap_nil, List.append_nil]
      rfl
  | goesOn _ _ _ ih =>
      rw [ih, Look.sent_after, List.flatMap_cons, List.append_assoc]
      rfl

theorem first (h : w.Course s t r c looks ending c') {k : Look σ} (hk : looks.head? = some k) :
    k = t.look r c := by
  cases h with
  | expired _ => simp at hk
  | settled _ _ | goesOn _ _ _ => simpa using hk.symm

theorem granted (h : w.Course s t r c looks ending c') :
    ∀ k ∈ looks, t.expired k.talk.clock = false := by
  induction h with
  | expired _ => intro k hk; simp at hk
  | settled h _ =>
      intro k hk
      obtain rfl : k = _ := by simpa using hk
      exact h
  | goesOn h _ _ ih =>
      intro k hk
      rcases List.mem_cons.mp hk with rfl | hk
      · exact h
      · exact ih k hk

theorem open_of_next (h : w.Course s t r c looks ending c') :
    ∀ (j : Nat) (k k' : Look σ), looks[j]? = some k → looks[j + 1]? = some k' →
      w.settles? (k.answer s) = none ∧
        k' = ⟨k.left s, (k.after s).sleep t.policy.interval⟩ := by
  induction h with
  | expired _ => intro j k k' hk; simp at hk
  | settled _ _ => intro j k k' _ hk'; simp at hk'
  | goesOn _ hs rest ih =>
      intro j k k' hk hk'
      cases j with
      | zero =>
          obtain rfl : _ = k := by simpa using hk
          have hhead : _ = some k' := (List.head?_eq_getElem? ..).trans (by simpa using hk')
          exact ⟨hs, rest.first hhead⟩
      | succ j => exact ih j k k' (by simpa using hk) (by simpa using hk')

theorem spaced (h : w.Course s t r c looks ending c') {j : Nat} {k k' : Look σ}
    (hk : looks[j]? = some k) (hk' : looks[j + 1]? = some k') :
    k.talk.clock + t.policy.interval ≤ k'.talk.clock := by
  obtain ⟨-, rfl⟩ := h.open_of_next j k k' hk hk'
  exact Nat.add_le_add_right (k.clock_le_after s) _

theorem elapsed (h : w.Course s t r c looks ending c') :
    ∀ (j : Nat) (k : Look σ), looks[j]? = some k →
      (t.look r c).talk.clock + j * t.policy.interval ≤ k.talk.clock := by
  intro j
  induction j with
  | zero =>
      intro k hk
      rw [h.first ((List.head?_eq_getElem? ..).trans hk)]
      omega
  | succ j ih =>
      intro k' hk'
      have hlt : j < looks.length := by
        have := (List.getElem?_eq_some_iff.mp hk').1
        omega
      have hk : looks[j]? = some looks[j] := List.getElem?_eq_getElem hlt
      have hj := ih looks[j] hk
      have hs := h.spaced hk hk'
      rw [Nat.succ_mul]
      omega

theorem left (h : w.Course s t r c looks ending c') :
    ending.2 = (looks.getLast?.map (Look.left s)).getD r := by
  induction h with
  | expired _ => rfl
  | settled _ _ => rfl
  | goesOn _ _ _ ih =>
      rw [ih, List.getLast?_cons]
      cases List.getLast? _ <;> rfl

theorem ends (h : w.Course s t r c looks ending c') :
    (∃ k, looks.getLast? = some k ∧ w.settles? (k.answer s) = some ending.1 ∧ c' = k.after s) ∨
    ((∀ k ∈ looks, w.settles? (k.answer s) = none) ∧ t.expired c'.clock = true ∧
      ending.1 = .error (.resourceTimeout t.message)) := by
  induction h with
  | expired h => exact .inr ⟨by simp, h, rfl⟩
  | settled _ hs => exact .inl ⟨_, rfl, hs, rfl⟩
  | goesOn _ hs _ ih =>
      rcases ih with ⟨k, hk, hsettled, hc⟩ | ⟨hopen, hexp, he⟩
      · exact .inl ⟨k, by rw [List.getLast?_cons, hk]; rfl, hsettled, hc⟩
      · refine .inr ⟨?_, hexp, he⟩
        intro k hk
        rcases List.mem_cons.mp hk with rfl | hk
        · exact hs
        · exact hopen k hk

end Watch.Course

end ControlPlane
