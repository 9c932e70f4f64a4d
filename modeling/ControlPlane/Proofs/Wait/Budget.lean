import ControlPlane.Proofs.Wait.Vigil

namespace ControlPlane

variable {σ : Type}

structure KeepsBudget (v : Vigil) (s : Session σ) (policy : WaitPolicy) (r : Resource)
    (c : Conversation σ) (looks : List (Look σ)) (result : Except Error Unit) (last : Resource)
    (c' : Conversation σ) : Prop where
  atOnce : v.SettledAtOnce r →
    looks = [] ∧ v.Settles (.ok r) result ∧ last = r ∧ c' = c
  sent : c'.sent = c.sent ++ looks.flatMap (Look.sent s)
  asked : ∀ k ∈ looks, k.seen.Ready .fetch → ∃ uri, k.seen.FoundAt uri ∧
    k.sent s = [⟨k.talk.clock, s.dress (k.seen.schema.bareRequest .get uri)⟩]
  refused : ∀ k ∈ looks, ¬k.seen.Ready .fetch → ∃ e, k.seen.plan .fetch = .error e ∧
    k.sent s = [] ∧ looks.getLast? = some k ∧ result = .error e
  first : ∀ k, looks.head? = some k → k = ⟨r, c⟩
  next : ∀ (j : Nat) (k k' : Look σ), looks[j]? = some k → looks[j + 1]? = some k' →
    v.Undecided (k.answer s) ∧ k' = ⟨k.left s, (k.after s).sleep policy.interval⟩
  granted : ∀ k ∈ looks, ∀ limit, policy.timeout = some limit → k.talk.clock - c.clock < limit
  bounded : ∀ limit, policy.timeout = some limit → 0 < policy.interval →
    looks.length ≤ (limit + policy.interval - 1) / policy.interval
  apart : ∀ (j : Nat) (k k' : Look σ), looks[j]? = some k → looks[j + 1]? = some k' →
    k.talk.clock + policy.interval ≤ k'.talk.clock
  left : last = (looks.getLast?.map (Look.left s)).getD r
  settled : ∀ k, looks.getLast? = some k → ¬v.Undecided (k.answer s) →
    v.Settles (k.answer s) result ∧ c' = k.after s
  expired : ¬v.SettledAtOnce r → (∀ k ∈ looks, v.Undecided (k.answer s)) →
    (∃ text, result = .error (.resourceTimeout text)) ∧
      ∃ limit, policy.timeout = some limit ∧ limit ≤ c'.clock - c.clock
  timedOut : ∀ text, result = .error (.resourceTimeout text) →
    ((∀ k ∈ looks, v.Undecided (k.answer s)) ∧
      ∃ limit, policy.timeout = some limit ∧ limit ≤ c'.clock - c.clock) ∨
    ∃ k, looks.getLast? = some k ∧ k.answer s = .error (.resourceTimeout text)
  succeeded : result = .ok () →
    (looks = [] ∧ v.SettledAtOnce r ∧ last = r ∧ v.Reached r) ∨
    ∃ k, looks.getLast? = some k ∧ ((k.answer s = .ok last ∧ v.Reached last) ∨
      v = .deletion ∧ ∃ e, k.answer s = .error e ∧ e.isNotFound = true)

namespace Vigil

theorem not_undecided_of_settles {v : Vigil} {answer : Except Error Resource}
    {result : Except Error Unit} (h : v.Settles answer result) : ¬v.Undecided answer := by
  cases answer with
  | error e => exact id
  | ok r =>
      rintro ⟨hr, hf⟩
      rcases h with ⟨h, -⟩ | ⟨h, -⟩
      · exact hr h
      · exact hf h

theorem settles_ok {v : Vigil} {answer : Except Error Resource} (h : v.Settles answer (.ok ())) :
    (∃ r, answer = .ok r ∧ v.Reached r) ∨
      v = .deletion ∧ ∃ e, answer = .error e ∧ e.isNotFound = true := by
  cases answer with
  | ok r =>
      rcases h with ⟨hr, -⟩ | ⟨-, text, he⟩
      · exact .inl ⟨r, rfl, hr⟩
      · simp at he
  | error e =>
      cases v <;> cases hn : e.isNotFound <;> simp [Settles, EndsIn, hn] at h ⊢

theorem settles_timeout {v : Vigil} {answer : Except Error Resource} {text : String}
    (h : v.Settles answer (.error (.resourceTimeout text))) :
    answer = .error (.resourceTimeout text) := by
  cases answer with
  | ok r =>
      rcases h with ⟨-, he⟩ | ⟨-, text', he⟩ <;> simp at he
  | error e =>
      cases v <;> cases hn : e.isNotFound <;> simp [Settles, EndsIn, hn] at h ⊢ <;> exact h.symm

theorem settles_refusal {v : Vigil} {e : Error} {result : Except Error Unit}
    (hn : e.isNotFound = false) (h : v.Settles (.error e) result) : result = .error e := by
  cases v <;> simpa [Settles, EndsIn, hn] using h

theorem keepsBudget_atOnce {v : Vigil} {s : Session σ} {policy : WaitPolicy} {r : Resource}
    {c : Conversation σ} {result : Except Error Unit} (h : v.SettledAtOnce r)
    (hs : v.Settles (.ok r) result) : KeepsBudget v s policy r c [] result r c where
  atOnce _ := ⟨rfl, hs, rfl, rfl⟩
  sent := (List.append_nil _).symm
  asked k hk := absurd hk List.not_mem_nil
  refused k hk := absurd hk List.not_mem_nil
  first k hk := by simp at hk
  next j k k' hk := by simp at hk
  granted k hk := absurd hk List.not_mem_nil
  bounded limit _ _ := Nat.zero_le _
  apart j k k' hk := by simp at hk
  left := rfl
  settled k hk := by simp at hk
  expired hnot := absurd h hnot
  timedOut text he := by
    subst he
    have := settles_timeout hs
    simp at this
  succeeded he := by
    subst he
    rcases settles_ok hs with ⟨r', hr', hreached⟩ | ⟨-, e, he, -⟩
    · obtain rfl : r = r' := by simpa using hr'
      exact .inl ⟨rfl, h, rfl, hreached⟩
    · simp at he

section

variable {v : Vigil} {s : Session σ} {policy : WaitPolicy} {message : String} {r : Resource}
  {c c' : Conversation σ} {looks : List (Look σ)} {ending : Settled}

theorem undecided_of_next
    (h : (v.watch r).Course s (.begin policy message c) r c looks ending c') :
    ∀ (j : Nat) (k k' : Look σ), looks[j]? = some k → looks[j + 1]? = some k' →
      v.Undecided (k.answer s) ∧ k' = ⟨k.left s, (k.after s).sleep policy.interval⟩ := by
  intro j k k' hk hk'
  obtain ⟨hopen, hnext⟩ := h.open_of_next j k k' hk hk'
  exact ⟨settles?_eq_none_iff.mp hopen, hnext⟩

theorem getLast?_of_not_undecided
    (h : (v.watch r).Course s (.begin policy message c) r c looks ending c') {k : Look σ}
    (hk : k ∈ looks) (hd : ¬v.Undecided (k.answer s)) : looks.getLast? = some k := by
  obtain ⟨j, hj, rfl⟩ := List.mem_iff_getElem.mp hk
  have hlast : j + 1 = looks.length := by
    apply Classical.byContradiction
    intro hne
    have hlt : j + 1 < looks.length := by omega
    exact hd (undecided_of_next h j _ _ (List.getElem?_eq_getElem hj)
      (List.getElem?_eq_getElem hlt)).1
  rw [List.getLast?_eq_getElem?, ← hlast]
  exact List.getElem?_eq_getElem hj

theorem settles_last (h : (v.watch r).Course s (.begin policy message c) r c looks ending c')
    {k : Look σ} (hk : looks.getLast? = some k) (hd : ¬v.Undecided (k.answer s)) :
    v.Settles (k.answer s) ending.1 ∧ c' = k.after s := by
  rcases h.ends with ⟨k', hk', hs, hc⟩ | ⟨hopen, -, -⟩
  · obtain rfl : k = k' := by
      rw [hk, Option.some.injEq] at hk'
      exact hk'
    exact ⟨settles_of_settles? hs, hc⟩
  · exact absurd (settles?_eq_none_iff.mp (hopen k (List.mem_of_getLast? hk))) hd

theorem length_le (h : (v.watch r).Course s (.begin policy message c) r c looks ending c')
    {limit : Nat} (ht : policy.timeout = some limit) (hi : 0 < policy.interval) :
    looks.length ≤ (limit + policy.interval - 1) / policy.interval := by
  rw [Nat.le_div_iff_mul_le hi]
  cases hn : looks.length with
  | zero => omega
  | succ n =>
      -- the last look comes after as many intervals as there are looks before it
      have hlt : n < looks.length := by omega
      have helapsed := h.elapsed n looks[n] (List.getElem?_eq_getElem hlt)
      have hgranted := Ticker.expired_eq_false_iff.mp (h.granted _ (List.getElem_mem hlt)) limit ht
      change c.clock + 0 + n * policy.interval ≤ _ at helapsed
      change looks[n].talk.clock - c.clock < limit at hgranted
      rw [Nat.succ_mul]
      omega

theorem keepsBudget_of_course (hnot : ¬v.SettledAtOnce r)
    (h : (v.watch r).Course s (.begin policy message c) r c looks ending c') :
    KeepsBudget v s policy r c looks ending.1 ending.2 c' where
  atOnce hat := absurd hat hnot
  sent := h.sent
  asked k _ := Look.sent_of_ready s
  refused k hk hready := by
    obtain ⟨e, he, hn, hanswer, hsent⟩ := Look.fetch_of_not_ready s hready
    have hd : ¬v.Undecided (k.answer s) := by
      rw [hanswer]
      exact id
    have hlast := getLast?_of_not_undecided h hk hd
    have hsettles := (settles_last h hlast hd).1
    rw [hanswer] at hsettles
    exact ⟨e, he, hsent, hlast, settles_refusal hn hsettles⟩
  first k hk := h.first hk
  next := undecided_of_next h
  granted k hk := Ticker.expired_eq_false_iff.mp (h.granted k hk)
  bounded _ := length_le h
  apart _ _ _ := h.spaced
  left := h.left
  settled _ := settles_last h
  expired _ hopen := by
    rcases h.ends with ⟨k, hk, hs, -⟩ | ⟨-, hexp, he⟩
    · exact absurd (hopen k (List.mem_of_getLast? hk))
        (not_undecided_of_settles (settles_of_settles? hs))
    · exact ⟨⟨message, he⟩, Ticker.expired_eq_true_iff.mp hexp⟩
  timedOut text he := by
    rcases h.ends with ⟨k, hk, hs, -⟩ | ⟨hopen, hexp, -⟩
    · rw [he] at hs
      exact .inr ⟨k, hk, settles_timeout (settles_of_settles? hs)⟩
    · exact .inl ⟨fun k hk => settles?_eq_none_iff.mp (hopen k hk),
        Ticker.expired_eq_true_iff.mp hexp⟩
  succeeded he := by
    rcases h.ends with ⟨k, hk, hs, -⟩ | ⟨-, -, htimeout⟩
    · rw [he] at hs
      refine .inr ⟨k, hk, ?_⟩
      rcases settles_ok (settles_of_settles? hs) with ⟨r', hr', hreached⟩ | hgone
      · have hlast : ending.2 = r' := by
          rw [h.left, hk]
          exact Look.left_of_ok hr'
        exact .inl ⟨hlast ▸ hr', hlast ▸ hreached⟩
      · exact .inr hgone
    · rw [he] at htimeout
      simp at htimeout

end

theorem wait_keeps_budget (v : Vigil) (s : Session σ) (policy : WaitPolicy) (r : Resource)
    (c : Conversation σ) :
    ∃ looks, KeepsBudget v s policy r c looks (v.wait s policy r c).1.1 (v.wait s policy r c).1.2
      (v.wait s policy r c).2 := by
  rcases v.wait_cases s policy r c with ⟨hat, result, hs, hw⟩ | ⟨hnot, message, hw⟩
  · rw [hw]
    exact ⟨[], keepsBudget_atOnce hat hs⟩
  · rw [hw]
    obtain ⟨looks, h⟩ := poll_course s (v.watch r) _ (.begin policy message c) r c rfl
    exact ⟨looks, keepsBudget_of_course hnot h⟩

end Vigil

end ControlPlane
