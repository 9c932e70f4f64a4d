import ControlPlane.Proofs.Wait.Course
import ControlPlane.Proofs.Wait.Round

namespace ControlPlane.Baremetal.Fleet

variable {σ : Type}

def roundAt (s : Session σ) (g : Goal) (t : Ticker) (es : List Entry) (c : Conversation σ) :
    List (Visit σ) := sweep s g es (c.sleep t.pause)

def awaited (s : Session σ) (g : Goal) (es : List Entry) (rounds : List (List (Visit σ))) :
    List Entry := (rounds.getLast?.map (waiting s g)).getD es

def placesOf (keep : Visit σ → Bool) (rounds : List (List (Visit σ))) : List Nat :=
  (rounds.flatten.filter keep).map Visit.place

inductive Fetched (s : Session σ) : Resource → Resource → Prop
  | refl (r) : Fetched s r r
  | step {r r' r''} (c) (h : Fetched s r r') (hf : (Look.mk r' c).answer s = .ok r'') :
      Fetched s r r''

def Entry.StemsFrom (s : Session σ) (nodes : List Resource) (e : Entry) : Prop :=
  ∃ n, nodes[e.place]? = some n ∧ Fetched s n e.node

theorem waitLoop_eq (s : Session σ) (g : Goal) (t : Ticker) (es : List Entry) (o : Outcome)
    (c : Conversation σ) :
    waitLoop s g t (es.map Entry.node) o c =
      if t.expired (c.sleep t.pause).clock then
        (if g.failFast then .error (.resourceTimeout t.message)
          else .ok { o with timeout := es.map Entry.node }, c.sleep t.pause)
      else
        match (roundAt s g t es c).findSome? (Visit.ends? s g) with
        | some e => (.error e, talkAfter s (c.sleep t.pause) (roundAt s g t es c))
        | none =>
            if waiting s g (roundAt s g t es c) = [] then
              (.ok (o.add s g (roundAt s g t es c)),
                talkAfter s (c.sleep t.pause) (roundAt s g t es c))
            else waitLoop s g t.tick ((waiting s g (roundAt s g t es c)).map Entry.node)
              (o.add s g (roundAt s g t es c))
              (talkAfter s (c.sleep t.pause) (roundAt s g t es c)) := by
  rw [waitLoop]
  split
  · rename_i ht
    obtain ⟨hexp, rfl, rfl⟩ := Ticker.eq_of_next_error ht
    rw [if_pos hexp]
  · rename_i ht
    obtain ⟨hexp, rfl, rfl⟩ := Ticker.eq_of_next_ok ht
    rw [if_neg (Bool.eq_false_iff.mp hexp)]
    split
    · rename_i hr
      obtain ⟨hf, rfl⟩ := eq_of_round_error hr
      rw [roundAt, hf]
    · rename_i hr
      obtain ⟨hf, rfl, rfl, rfl⟩ := eq_of_round_ok hr
      rw [roundAt, hf]
      simp only [List.map_eq_nil_iff]
      split <;> rfl

inductive Course (s : Session σ) (g : Goal) : Ticker → List Entry → Conversation σ →
    List (List (Visit σ)) → Outcome → Except Error Outcome → Conversation σ → Prop
  | expired {t es c o} (h : t.expired (c.sleep t.pause).clock = true) :
      Course s g t es c [] o
        (if g.failFast then .error (.resourceTimeout t.message)
          else .ok { o with timeout := es.map Entry.node })
        (c.sleep t.pause)
  | ended {t es c o e} (he : (roundAt s g t es c).findSome? (Visit.ends? s g) = some e) :
      Course s g t es c [roundAt s g t es c] o (.error e)
        (talkAfter s (c.sleep t.pause) (roundAt s g t es c))
  | done {t es c o} (hn : (roundAt s g t es c).findSome? (Visit.ends? s g) = none)
      (hw : waiting s g (roundAt s g t es c) = []) :
      Course s g t es c [roundAt s g t es c] o (.ok (o.add s g (roundAt s g t es c)))
        (talkAfter s (c.sleep t.pause) (roundAt s g t es c))
  | goesOn {t es c o rounds result c'}
      (hn : (roundAt s g t es c).findSome? (Visit.ends? s g) = none)
      (hw : waiting s g (roundAt s g t es c) ≠ [])
      (rest : Course s g t.tick (waiting s g (roundAt s g t es c))
        (talkAfter s (c.sleep t.pause) (roundAt s g t es c)) rounds
        (o.add s g (roundAt s g t es c)) result c') :
      Course s g t es c (roundAt s g t es c :: rounds) o result c'

theorem supply_talkAfter_lt {s : Session σ} {g : Goal} {t : Ticker} {es : List Entry}
    {c : Conversation σ} (hn : (roundAt s g t es c).findSome? (Visit.ends? s g) = none)
    (hw : waiting s g (roundAt s g t es c) ≠ []) :
    s.supply (talkAfter s (c.sleep t.pause) (roundAt s g t es c)).peer < s.supply c.peer := by
  have hround := round_eq s g es {} [] (c.sleep t.pause)
  rw [roundAt] at hn
  rw [hn] at hround
  have hle := supply_round hround
  have hpos := List.length_pos_iff.mpr hw
  rw [roundAt] at hpos ⊢
  simp only [List.nil_append, List.length_map, List.length_nil] at hle
  change _ ≤ s.supply c.peer + 0 at hle
  omega

theorem waitLoop_course (s : Session σ) (g : Goal) (n : Nat) :
    ∀ (t : Ticker) (es : List Entry) (o : Outcome) (c : Conversation σ), s.supply c.peer = n →
      ∃ rounds, Course s g t es c rounds o (waitLoop s g t (es.map Entry.node) o c).1
        (waitLoop s g t (es.map Entry.node) o c).2 := by
  -- a node that still waits has used up some of the far end's supply
  induction n using Nat.strongRecOn with
  | ind n ih =>
      intro t es o c hn
      rw [waitLoop_eq]
      by_cases hexp : t.expired (c.sleep t.pause).clock = true
      · rw [if_pos hexp]
        exact ⟨[], .expired hexp⟩
      · rw [if_neg hexp]
        cases he : (roundAt s g t es c).findSome? (Visit.ends? s g) with
        | some e => exact ⟨_, .ended he⟩
        | none =>
            dsimp only
            by_cases hw : waiting s g (roundAt s g t es c) = []
            · rw [if_pos hw]
              exact ⟨_, .done he hw⟩
            · rw [if_neg hw]
              have hlt := supply_talkAfter_lt he hw
              obtain ⟨rounds, hrest⟩ := ih _ (hn ▸ hlt) t.tick
                (waiting s g (roundAt s g t es c)) (o.add s g (roundAt s g t es c)) _ rfl
              exact ⟨_, .goesOn he hw hrest⟩

section

variable {s : Session σ} {g : Goal} {v w : Visit σ} {vs ws : List (Visit σ)} {es : List Entry}
  {c : Conversation σ}

theorem mark_cases (h : v.ends? s g = none) :
    (v.isReached s g = true ∧ v.isFailed s g = false ∧ v.isPending s g = false) ∨
    (v.isReached s g = false ∧ v.isFailed s g = true ∧ v.isPending s g = false) ∨
    (v.isReached s g = false ∧ v.isFailed s g = false ∧ v.isPending s g = true) := by
  rw [Visit.ends?] at h
  cases hm : v.mark s g with
  | broken e => simp [hm] at h
  | reached => exact .inl (by simp [Visit.isReached, Visit.isFailed, Visit.isPending, hm])
  | failed e =>
      exact .inr (.inl (by simp [Visit.isReached, Visit.isFailed, Visit.isPending, hm]))
  | pending =>
      exact .inr (.inr (by simp [Visit.isReached, Visit.isFailed, Visit.isPending, hm]))

theorem map_place_waiting (s : Session σ) (g : Goal) (vs : List (Visit σ)) :
    (waiting s g vs).map Entry.place = (vs.filter (Visit.isPending s g)).map Visit.place := by
  rw [waiting, List.map_map]
  rfl

theorem places_perm (h : ∀ v ∈ vs, v.ends? s g = none) :
    (vs.map Visit.place).Perm ((vs.filter (Visit.isReached s g)).map Visit.place ++
      (vs.filter (Visit.isFailed s g)).map Visit.place ++ (waiting s g vs).map Entry.place) := by
  rw [map_place_waiting, List.perm_iff_count]
  intro place
  induction vs with
  | nil => rfl
  | cons v rest ih =>
      have hrest := ih fun w hw => h w (List.mem_cons_of_mem _ hw)
      simp only [List.count_append] at hrest
      rcases mark_cases (h v (List.mem_cons_self ..)) with ⟨hr, hf, hp⟩ | ⟨hr, hf, hp⟩ | ⟨hr, hf, hp⟩
        <;> simp only [List.map_cons, List.filter_cons, hr, hf, hp, List.count_append,
          List.count_cons, if_true, Bool.false_eq_true, if_false, hrest] <;> omega

theorem places_sweep (s : Session σ) (g : Goal) (es : List Entry) (c : Conversation σ) :
    (sweep s g es c).map Visit.place <+: es.map Entry.place := by
  have h := (entries_of_sweep s g es c).map Entry.place
  rw [List.map_map] at h
  exact h

theorem places_complete (h : ∀ v ∈ sweep s g es c, v.ends? s g = none) :
    (sweep s g es c).map Visit.place = es.map Entry.place := by
  have hall := congrArg (List.map Entry.place) (sweep_complete h)
  rw [List.map_map] at hall
  exact hall

theorem places_waiting (s : Session σ) (g : Goal) (es : List Entry) (c : Conversation σ) :
    ((waiting s g (sweep s g es c)).map Entry.place).Sublist (es.map Entry.place) := by
  rw [map_place_waiting]
  exact (List.filter_sublist.map Visit.place).trans (places_sweep s g es c).sublist

theorem awaited_cons {rounds : List (List (Visit σ))} :
    awaited s g es (vs :: rounds) = awaited s g (waiting s g vs) rounds := by
  rw [awaited, awaited, List.getLast?_cons]
  cases rounds.getLast? <;> rfl

theorem add_add (o : Outcome) : (o.add s g vs).add s g ws = o.add s g (vs ++ ws) := by
  simp [Outcome.add]

theorem stemsFrom_left {nodes : List Resource} (h : v.entry.StemsFrom s nodes) :
    (Entry.mk v.place (v.left s)).StemsFrom s nodes := by
  obtain ⟨n, hn, hf⟩ := h
  refine ⟨n, hn, ?_⟩
  change Fetched s n (v.look.left s)
  cases ha : v.look.answer s with
  | ok r =>
      rw [Look.left_of_ok ha]
      exact hf.step v.look.talk ha
  | error e =>
      rw [Look.left_of_error ha]
      exact hf

theorem stemsFrom_sweep {nodes : List Resource} (h : ∀ e ∈ es, e.StemsFrom s nodes)
    (hv : v ∈ sweep s g es c) : (Entry.mk v.place (v.left s)).StemsFrom s nodes :=
  stemsFrom_left (h _ ((entries_of_sweep s g es c).subset (List.mem_map.mpr ⟨v, hv, rfl⟩)))

theorem stemsFrom_waiting {nodes : List Resource} (h : ∀ e ∈ es, e.StemsFrom s nodes) :
    ∀ e ∈ waiting s g (sweep s g es c), e.StemsFrom s nodes := by
  intro e he
  obtain ⟨v, hv, rfl⟩ := List.mem_map.mp he
  exact stemsFrom_sweep h (List.mem_filter.mp hv).1

theorem eq_of_place (hd : (vs.map Visit.place).Nodup) (hv : v ∈ vs) (hw : w ∈ vs)
    (h : v.place = w.place) : v = w := by
  induction vs with
  | nil => simp at hv
  | cons u rest ih =>
      obtain ⟨hu, hrest⟩ := List.nodup_cons.mp hd
      rcases List.mem_cons.mp hv with hv' | hv' <;> rcases List.mem_cons.mp hw with hw' | hw'
      · rw [hv', hw']
      · exact absurd (List.mem_map.mpr ⟨w, hw', by rw [← h, hv']⟩) hu
      · exact absurd (List.mem_map.mpr ⟨v, hv', by rw [h, hw']⟩) hu
      · exact ih hrest hv' hw'

end

namespace Course

variable {s : Session σ} {g : Goal} {t : Ticker} {es : List Entry} {c c' : Conversation σ}
  {o : Outcome} {rounds : List (List (Visit σ))} {result : Except Error Outcome}

theorem sent (h : Course s g t es c rounds o result c') :
    c'.sent = c.sent ++ rounds.flatten.flatMap fun v => v.look.sent s := by
  induction h with
  | expired _ => exact (List.append_nil _).symm
  | ended _ | done _ _ =>
      rw [roundAt, sent_sweep, List.flatten_singleton]
      rfl
  | goesOn _ _ _ ih =>
      rw [ih, roundAt, sent_sweep, List.flatten_cons, List.flatMap_append, List.append_assoc]
      rfl

theorem first (h : Course s g t es c rounds o result c') {vs : List (Visit σ)}
    (hv : rounds.head? = some vs) : vs = roundAt s g t es c := by
  cases h with
  | expired _ => simp at hv
  | ended _ | done _ _ | goesOn _ _ _ => simpa using hv.symm

theorem next (h : Course s g t es c rounds o result c') :
    ∀ (j : Nat) (vs ws : List (Visit σ)), rounds[j]? = some vs → rounds[j + 1]? = some ws →
      ∃ v, vs.getLast? = some v ∧
        ws = sweep s g (waiting s g vs) ((v.look.after s).sleep t.policy.interval) := by
  induction h with
  | expired _ => intro j vs ws hv; simp at hv
  | ended _ | done _ _ => intro j vs ws _ hw; simp at hw
  | @goesOn t es c o rounds result c' _ hwait rest ih =>
      intro j vs ws hv hw
      cases j with
      | zero =>
          obtain rfl : _ = vs := by simpa using hv
          have hhead : rounds.head? = some ws :=
            (List.head?_eq_getElem? ..).trans (by simpa using hw)
          have hne : roundAt s g t es c ≠ [] := by
            intro hnil
            rw [hnil] at hwait
            exact hwait rfl
          refine ⟨_, List.getLast?_eq_some_getLast hne, ?_⟩
          rw [rest.first hhead, roundAt, talkAfter, List.getLast?_eq_some_getLast hne]
          rfl
      | succ j => exact ih j vs ws (by simpa using hv) (by simpa using hw)

theorem round_at (h : Course s g t es c rounds o result c') :
    ∀ (j : Nat) (vs : List (Visit σ)), rounds[j]? = some vs →
      ∃ d, vs = sweep s g (awaited s g es (rounds.take j)) d := by
  induction h with
  | expired _ => intro j vs hv; simp at hv
  | ended _ | done _ _ =>
      intro j vs hv
      obtain ⟨rfl, rfl⟩ : j = 0 ∧ _ = vs := by simpa [List.getElem?_singleton] using hv
      exact ⟨_, rfl⟩
  | goesOn _ _ _ ih =>
      intro j vs hv
      cases j with
      | zero =>
          obtain rfl : _ = vs := by simpa using hv
          exact ⟨_, rfl⟩
      | succ j =>
          rw [List.take_succ_cons, awaited_cons]
          exact ih j vs (by simpa using hv)

theorem awaited_sublist (h : Course s g t es c rounds o result c') :
    ∀ j : Nat, ((awaited s g es (rounds.take j)).map Entry.place).Sublist
      (es.map Entry.place) := by
  induction h with
  | expired _ =>
      intro j
      rw [List.take_nil]
      exact List.Sublist.refl _
  | ended _ | done _ _ =>
      intro j
      cases j with
      | zero => exact List.Sublist.refl _
      | succ j =>
          rw [List.take_succ_cons, List.take_nil, awaited_cons]
          exact places_waiting ..
  | goesOn _ _ _ ih =>
      intro j
      cases j with
      | zero => exact List.Sublist.refl _
      | succ j =>
          rw [List.take_succ_cons, awaited_cons]
          exact (ih j).trans (places_waiting ..)

theorem pending_of_again (h : Course s g t es c rounds o result c') :
    (es.map Entry.place).Nodup →
      ∀ (j k : Nat) (vs ws : List (Visit σ)), j < k → rounds[j]? = some vs → rounds[k]? = some ws →
        ∀ v ∈ vs, ∀ w ∈ ws, v.place = w.place → v.isPending s g = true := by
  induction h with
  | expired _ => intro _ j k vs ws _ hv; simp at hv
  | ended _ | done _ _ =>
      intro _ j k vs ws hjk _ hw
      have := (List.getElem?_eq_some_iff.mp hw).1
      simp only [List.length_singleton] at this
      omega
  | @goesOn t es c o rounds result c' _ _ rest ih =>
      intro hd j k vs ws hjk hvs hws v hv w hw hplace
      obtain ⟨k, rfl⟩ := Nat.exists_eq_succ_of_ne_zero (Nat.ne_zero_of_lt hjk)
      have hws' : rounds[k]? = some ws := by simpa using hws
      cases j with
      | zero =>
          obtain rfl : _ = vs := by simpa using hvs
          obtain ⟨d, rfl⟩ := rest.round_at k ws hws'
          have hmem := ((places_sweep ..).sublist.trans (rest.awaited_sublist k)).subset
            (List.mem_map.mpr ⟨w, hw, rfl⟩)
          rw [map_place_waiting] at hmem
          obtain ⟨u, hu, hplace'⟩ := List.mem_map.mp hmem
          obtain ⟨hu, hpending⟩ := List.mem_filter.mp hu
          have hdistinct := hd.sublist (places_sweep s g es (c.sleep t.pause)).sublist
          rw [eq_of_place hdistinct hv hu (hplace.trans hplace'.symm)]
          exact hpending
      | succ j =>
          exact ih (hd.sublist (places_waiting ..)) j k vs ws (by omega) (by simpa using hvs) hws' v
            hv w hw hplace

theorem stemsFrom {nodes : List Resource} (h : Course s g t es c rounds o result c') :
    (∀ e ∈ es, e.StemsFrom s nodes) →
      (∀ v ∈ rounds.flatten, (Entry.mk v.place (v.left s)).StemsFrom s nodes) ∧
        ∀ e ∈ awaited s g es rounds, e.StemsFrom s nodes := by
  induction h with
  | expired _ => intro hes; exact ⟨by simp, hes⟩
  | ended _ | done _ _ =>
      intro hes
      rw [List.flatten_singleton, awaited_cons]
      exact ⟨fun v => stemsFrom_sweep hes, stemsFrom_waiting hes⟩
  | goesOn _ _ _ ih =>
      intro hes
      rw [List.flatten_cons, awaited_cons]
      obtain ⟨hvisits, hawaited⟩ := ih (stemsFrom_waiting hes)
      refine ⟨fun v hv => ?_, hawaited⟩
      rcases List.mem_append.mp hv with hv | hv
      · exact stemsFrom_sweep hes hv
      · exact hvisits v hv

theorem places (h : Course s g t es c rounds o result c') :
    (∀ v ∈ rounds.flatten, v.ends? s g = none) →
      (es.map Entry.place).Perm (placesOf (Visit.isReached s g) rounds ++
        placesOf (Visit.isFailed s g) rounds ++ (awaited s g es rounds).map Entry.place) := by
  induction h with
  | expired _ => intro _; exact List.Perm.refl _
  | @ended t es c o e he =>
      intro hopen
      obtain ⟨v, hv, hends⟩ := List.exists_of_findSome?_eq_some he
      rw [hopen v (by simpa using hv)] at hends
      simp at hends
  | @done t es c o hn _ =>
      intro _
      have hopen := List.findSome?_eq_none_iff.mp hn
      have hround := places_perm hopen
      rw [show (roundAt s g t es c).map Visit.place = _ from places_complete hopen] at hround
      simpa [placesOf, awaited] using hround
  | @goesOn t es c o rounds result c' hn _ rest ih =>
      intro hopen
      have hhere := List.findSome?_eq_none_iff.mp hn
      have hround := places_perm hhere
      have hlater := ih fun v hv => hopen v (by simp [hv])
      rw [show (roundAt s g t es c).map Visit.place = _ from places_complete hhere] at hround
      rw [awaited_cons]
      simp only [placesOf, List.flatten_cons, List.filter_append, List.map_append,
        List.perm_iff_count, List.count_append] at hround hlater ⊢
      intro place
      have := hround place
      have := hlater place
      omega

theorem cut_short (h : Course s g t es c rounds o result c') :
    ∀ v ∈ rounds.flatten, ∀ e, v.ends? s g = some e →
      rounds.flatten.getLast? = some v ∧ result = .error e ∧ c' = v.look.after s := by
  induction h with
  | expired _ => intro v hv; simp at hv
  | @ended t es c o e he =>
      intro v hv e' hends
      rw [List.flatten_singleton] at hv ⊢
      have hlast := getLast?_of_ends hv (by simp [hends])
      obtain ⟨u, hu, hu'⟩ := List.exists_of_findSome?_eq_some he
      have hlast' := getLast?_of_ends hu (by simp [hu'])
      obtain rfl : v = u := by
        rw [hlast, Option.some.injEq] at hlast'
        exact hlast'
      rw [hends, Option.some.injEq] at hu'
      refine ⟨hlast, by rw [hu'], ?_⟩
      rw [roundAt, talkAfter, hlast]
      rfl
  | done hn _ =>
      intro v hv e hends
      rw [List.flatten_singleton] at hv
      rw [List.findSome?_eq_none_iff.mp hn v hv] at hends
      simp at hends
  | goesOn hn _ _ ih =>
      intro v hv e hends
      rw [List.flatten_cons] at hv ⊢
      rcases List.mem_append.mp hv with hv | hv
      · rw [List.findSome?_eq_none_iff.mp hn v hv] at hends
        simp at hends
      · obtain ⟨hlast, hresult⟩ := ih v hv e hends
        refine ⟨?_, hresult⟩
        rw [List.getLast?_append, hlast]
        rfl

theorem closes (h : Course s g t es c rounds o result c') :
    (∃ v ∈ rounds.flatten, ∃ e, v.ends? s g = some e ∧ result = .error e) ∨
    ((∀ v ∈ rounds.flatten, v.ends? s g = none) ∧
      ((awaited s g es rounds = [] ∧ result = .ok (o.add s g rounds.flatten)) ∨
        (t.expired c'.clock = true ∧ result =
          if g.failFast then .error (.resourceTimeout t.message)
          else .ok { o.add s g rounds.flatten with
            timeout := (awaited s g es rounds).map Entry.node }))) := by
  induction h with
  | @expired t es c o h =>
      refine .inr ⟨by simp, .inr ⟨h, ?_⟩⟩
      simp [Outcome.add, awaited]
  | ended he =>
      obtain ⟨v, hv, hends⟩ := List.exists_of_findSome?_eq_some he
      exact .inl ⟨v, by simpa using hv, _, hends, rfl⟩
  | done hn hw =>
      rw [List.flatten_singleton]
      exact .inr ⟨List.findSome?_eq_none_iff.mp hn, .inl ⟨hw, rfl⟩⟩
  | goesOn hn _ _ ih =>
      rw [awaited_cons, List.flatten_cons, ← add_add]
      rcases ih with ⟨v, hv, e, hends, he⟩ | ⟨hopen, hend⟩
      · exact .inl ⟨v, List.mem_append_right _ hv, e, hends, he⟩
      · refine .inr ⟨?_, hend⟩
        intro v hv
        rcases List.mem_append.mp hv with hv | hv
        · exact List.findSome?_eq_none_iff.mp hn v hv
        · exact hopen v hv

end Course

end ControlPlane.Baremetal.Fleet
