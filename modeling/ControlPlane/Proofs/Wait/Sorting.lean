import ControlPlane.Proofs.Wait.Partition
import Mathlib.Data.List.Forall2

namespace ControlPlane.Baremetal.Fleet

variable {σ : Type}

structure SortsNodes (s : Session σ) (g : Goal) (policy : WaitPolicy) (nodes : List Resource)
    (c : Conversation σ) (rounds : List (List (Visit σ))) (result : Except Error Outcome)
    (c' : Conversation σ) : Prop where
  sent : c'.sent = c.sent ++ rounds.flatten.flatMap fun v => v.look.sent s
  asked : ∀ v ∈ rounds.flatten, ∀ r, v.look.answer s = .ok r →
    ∃ uri, v.look.seen.FoundAt uri ∧
      v.look.sent s = [⟨v.look.talk.clock, s.dress (v.look.seen.schema.bareRequest .get uri)⟩]
  first : ∀ vs, rounds.head? = some vs → vs = sweep s g (entries nodes) c
  next : ∀ (j : Nat) (vs ws : List (Visit σ)), rounds[j]? = some vs → rounds[j + 1]? = some ws →
    ∃ v, vs.getLast? = some v ∧
      ws = sweep s g (waiting s g vs) ((v.look.after s).sleep policy.interval)
  visited : ∀ (j : Nat) (vs : List (Visit σ)), rounds[j]? = some vs →
    vs.map Visit.entry <+: awaited s g (entries nodes) (rounds.take j) ∧
      ((∀ v ∈ vs, v.ends? s g = none) →
        vs.map Visit.entry = awaited s g (entries nodes) (rounds.take j))
  ordered : ∀ j : Nat,
    ((awaited s g (entries nodes) (rounds.take j)).map Entry.place).Pairwise (· < ·)
  decided : ∀ (j k : Nat) (vs ws : List (Visit σ)), j < k → rounds[j]? = some vs →
    rounds[k]? = some ws → ∀ v ∈ vs, ∀ w ∈ ws, v.place = w.place → v.mark s g = .pending
  stems : (∀ v ∈ rounds.flatten, (Entry.mk v.place (v.left s)).StemsFrom s nodes) ∧
    ∀ e ∈ awaited s g (entries nodes) rounds, e.StemsFrom s nodes
  tolerant : g.failFast = false → (∀ v ∈ rounds.flatten, ∃ r, v.look.answer s = .ok r) →
    ∃ o, result = .ok o
  outcome : ∀ o, result = .ok o →
    o.success = (rounds.flatten.filter (Visit.isReached s g)).map (Visit.left s) ∧
    o.failure = (rounds.flatten.filter (Visit.isFailed s g)).map (Visit.left s) ∧
    o.timeout = (awaited s g (entries nodes) rounds).map Entry.node
  partition : ∀ o, result = .ok o → (List.range nodes.length).Perm
    (placesOf (Visit.isReached s g) rounds ++ placesOf (Visit.isFailed s g) rounds ++
      (awaited s g (entries nodes) rounds).map Entry.place)
  timedOut : ∀ o, result = .ok o → o.timeout ≠ [] →
    ∃ limit, policy.timeout = some limit ∧ limit ≤ c'.clock - c.clock
  unfailing : g.abortOnFailure = false → ∀ o, result = .ok o → o.failure = []
  strict : g.failFast = true → ∀ o, result = .ok o → o.failure = [] ∧ o.timeout = [] ∧
    (List.range nodes.length).Perm (placesOf (Visit.isReached s g) rounds)
  cutShort : ∀ v ∈ rounds.flatten, ∀ e, v.ends? s g = some e →
    rounds.flatten.getLast? = some v ∧ result = .error e ∧ c' = v.look.after s
  faults : ∀ e, result = .error e →
    (∃ v ∈ rounds.flatten, v.ends? s g = some e) ∨
    (g.failFast = true ∧ (∃ text, e = .resourceTimeout text) ∧
      ∃ limit, policy.timeout = some limit ∧ limit ≤ c'.clock - c.clock)

section

variable {s : Session σ} {g : Goal} {v : Visit σ}

theorem places_entries (nodes : List Resource) :
    (entries nodes).map Entry.place = List.range nodes.length := by
  rw [entries, List.map_map, List.range_eq_range', ← List.zipIdx_map_snd]
  rfl

theorem nodes_entries (nodes : List Resource) : (entries nodes).map Entry.node = nodes := by
  rw [entries, List.map_map]
  exact List.zipIdx_map_fst 0 nodes

theorem stemsFrom_entries (s : Session σ) {nodes : List Resource} :
    ∀ e ∈ entries nodes, e.StemsFrom s nodes := by
  intro e he
  obtain ⟨⟨n, place⟩, hmem, rfl⟩ := List.mem_map.mp he
  exact ⟨n, List.mk_mem_zipIdx_iff_getElem?.mp hmem, .refl n⟩

theorem ends?_of_ok {r : Resource} (h : v.look.answer s = .ok r) (hg : g.failFast = false) :
    v.ends? s g = none := by
  rw [Visit.ends?, Visit.mark, h]
  dsimp only
  rcases Node.checkReached r g.expected g.abortOnFailure with e | (_ | _) <;> simp [hg]

theorem isFailed_eq_false (h : g.abortOnFailure = false) : v.isFailed s g = false := by
  rw [Visit.isFailed, Visit.mark, h]
  rcases v.look.answer s with e | r
  · rfl
  · dsimp only
    rw [Node.checkReached]
    cases Node.isAt g.expected (Node.provisionState? r) <;> rfl

theorem isFailed_of_failFast (hg : g.failFast = true) (h : v.ends? s g = none) :
    v.isFailed s g = false := by
  rw [Visit.isFailed]
  rw [Visit.ends?, hg] at h
  cases hm : v.mark s g with
  | failed e => simp [hm] at h
  | broken e | reached | pending => rfl

end

section

variable {s : Session σ} {g : Goal} {policy : WaitPolicy} {message : String}
  {nodes : List Resource} {c c' : Conversation σ} {rounds : List (List (Visit σ))}
  {result : Except Error Outcome}

theorem open_of_ok {t : Ticker} {es : List Entry} {o o' : Outcome}
    (h : Course s g t es c rounds o (.ok o') c') : ∀ v ∈ rounds.flatten, v.ends? s g = none := by
  rcases h.closes with ⟨v, -, e, -, he⟩ | ⟨hopen, -⟩
  · simp at he
  · exact hopen

theorem outcome_of_ok {t : Ticker} {es : List Entry} {o : Outcome}
    (h : Course s g t es c rounds {} (.ok o) c') :
    o = { success := (rounds.flatten.filter (Visit.isReached s g)).map (Visit.left s)
          failure := (rounds.flatten.filter (Visit.isFailed s g)).map (Visit.left s)
          timeout := (awaited s g es rounds).map Entry.node } ∧
      (o.timeout ≠ [] → g.failFast = false ∧ t.expired c'.clock = true) := by
  rcases h.closes with ⟨v, -, e, -, he⟩ | ⟨-, ⟨hnone, he⟩ | ⟨hexp, he⟩⟩
  · simp at he
  · rw [Except.ok.injEq] at he
    rw [he, hnone]
    exact ⟨rfl, fun hne => absurd rfl hne⟩
  · cases hf : g.failFast with
    | true => simp [hf] at he
    | false =>
        rw [hf, if_neg (by simp), Except.ok.injEq] at he
        rw [he]
        exact ⟨rfl, fun _ => ⟨rfl, hexp⟩⟩

theorem faults_of_course {t : Ticker} {es : List Entry} {o : Outcome} {e : Error}
    (h : Course s g t es c rounds o (.error e) c') :
    (∃ v ∈ rounds.flatten, v.ends? s g = some e) ∨
      g.failFast = true ∧ e = .resourceTimeout t.message ∧ t.expired c'.clock = true := by
  rcases h.closes with ⟨v, hv, e', hends, he⟩ | ⟨-, ⟨-, he⟩ | ⟨hexp, he⟩⟩
  · rw [Except.error.injEq] at he
    exact .inl ⟨v, hv, he ▸ hends⟩
  · simp at he
  · cases hf : g.failFast with
    | true =>
        rw [hf, if_pos rfl, Except.error.injEq] at he
        exact .inr ⟨rfl, he, hexp⟩
    | false => simp [hf] at he

theorem sortsNodes_of_course
    (h : Course s g (.begin policy message c) (entries nodes) c rounds {} result c') :
    SortsNodes s g policy nodes c rounds result c' where
  sent := h.sent
  asked v _ r ha := by
    apply Look.sent_of_ready
    apply Classical.byContradiction
    intro hready
    obtain ⟨e, -, -, he, -⟩ := Look.fetch_of_not_ready s hready
    rw [ha] at he
    simp at he
  first vs hv := h.first hv
  next := h.next
  visited j vs hv := by
    obtain ⟨d, rfl⟩ := h.round_at j vs hv
    exact ⟨entries_of_sweep .., sweep_complete⟩
  ordered j := by
    have hall : ((entries nodes).map Entry.place).Pairwise (· < ·) := by
      rw [places_entries]
      exact List.pairwise_lt_range
    exact hall.sublist (h.awaited_sublist j)
  decided j k vs ws hjk hvs hws v hv w hw hplace := by
    have hd : ((entries nodes).map Entry.place).Nodup := by
      rw [places_entries]
      exact List.nodup_range
    exact beq_iff_eq.mp (h.pending_of_again hd j k vs ws hjk hvs hws v hv w hw hplace)
  stems := h.stemsFrom (stemsFrom_entries s)
  tolerant hg hok := by
    cases hr : result with
    | ok o => exact ⟨o, rfl⟩
    | error e =>
        rw [hr] at h
        rcases faults_of_course h with ⟨v, hv, hends⟩ | ⟨hf, -⟩
        · obtain ⟨r, ha⟩ := hok v hv
          rw [ends?_of_ok ha hg] at hends
          simp at hends
        · simp [hg] at hf
  outcome o ho := by
    subst ho
    rw [(outcome_of_ok h).1]
    exact ⟨rfl, rfl, rfl⟩
  partition o ho := by
    subst ho
    rw [← places_entries]
    exact h.places (open_of_ok h)
  timedOut o ho hne := by
    subst ho
    exact Ticker.expired_eq_true_iff.mp ((outcome_of_ok h).2 hne).2
  unfailing habort o ho := by
    subst ho
    rw [(outcome_of_ok h).1, List.map_eq_nil_iff, List.filter_eq_nil_iff]
    intro v _
    simp [isFailed_eq_false habort]
  strict hg o ho := by
    subst ho
    have hopen := open_of_ok h
    obtain ⟨hout, hspent⟩ := outcome_of_ok h
    have hfailed : rounds.flatten.filter (Visit.isFailed s g) = [] := by
      rw [List.filter_eq_nil_iff]
      intro v hv
      simp [isFailed_of_failFast hg (hopen v hv)]
    have htimeout : o.timeout = [] := by
      apply Classical.byContradiction
      intro hne
      have := (hspent hne).1
      simp [hg] at this
    have hnone : awaited s g (entries nodes) rounds = [] := by
      rw [hout] at htimeout
      exact List.map_eq_nil_iff.mp htimeout
    have hplaces := h.places hopen
    rw [places_entries, hnone, placesOf, placesOf, hfailed] at hplaces
    refine ⟨by rw [hout, hfailed]; rfl, htimeout, ?_⟩
    simpa [placesOf] using hplaces
  cutShort := h.cut_short
  faults e he := by
    subst he
    rcases faults_of_course h with hends | ⟨hf, rfl, hexp⟩
    · exact .inl hends
    · exact .inr ⟨hf, ⟨_, rfl⟩, Ticker.expired_eq_true_iff.mp hexp⟩

theorem resolved_of_resolveAll {refs : List Reference} : ∀ {nodes : List Resource},
    resolveAll refs = .ok nodes →
      List.Forall₂ (fun ref n => ref.resolve Node.schema .empty = .ok n) refs nodes := by
  induction refs with
  | nil =>
      intro nodes h
      obtain rfl : [] = nodes := by simpa [resolveAll] using h
      exact .nil
  | cons ref rest ih =>
      intro nodes h
      rw [resolveAll] at h
      cases hr : ref.resolve Node.schema .empty with
      | error e => simp [hr, bind, Except.bind] at h
      | ok r =>
          cases hrest : resolveAll rest with
          | error e => simp [hr, hrest, bind, Except.bind] at h
          | ok rs =>
              obtain rfl : r :: rs = nodes := by simpa [hr, hrest, bind, Except.bind] using h
              exact .cons hr (ih hrest)

end

theorem wait_sorts_nodes (s : Session σ) (g : Goal) (policy : WaitPolicy) {refs : List Reference}
    {nodes : List Resource} (c : Conversation σ) (h : resolveAll refs = .ok nodes) :
    List.Forall₂ (fun ref n => ref.resolve Node.schema .empty = .ok n) refs nodes ∧
      ∃ rounds, SortsNodes s g policy nodes c rounds (waitForProvisionState s g policy refs c).1
        (waitForProvisionState s g policy refs c).2 := by
  refine ⟨resolved_of_resolveAll h, ?_⟩
  obtain ⟨rounds, hcourse⟩ := waitLoop_course s g _ (.begin policy _ c)
    (entries nodes) {} c rfl
  rw [nodes_entries] at hcourse
  rw [waitForProvisionState, h]
  exact ⟨rounds, sortsNodes_of_course hcourse⟩

def nodeReply (id state : String) : Reply :=
  .success { status := 200
             body := some (.record [("uuid", .text id), ("provision_state", .text state)]) }

theorem wait_sorts_repeated :
    let refs : List Reference := [.byId "n1", .byId "n2", .byId "n1"]
    let nodes : List Resource :=
      [.withId Node.schema "n1", .withId Node.schema "n2", .withId Node.schema "n1"]
    let g : Goal := ⟨"available", true, false⟩
    let c : Conversation (List Reply) :=
      ⟨0, [], [nodeReply "n1" "available", nodeReply "n2" "clean failed",
        nodeReply "n1" "cleaning", nodeReply "n1" "cleaning"]⟩
    let sorted := waitForProvisionState .replay g ⟨1000, some 2000⟩ refs c
    let look (url : String) : Request :=
      { method := .get, url := url, service := some "baremetal"
        microversion := some "1.52", retriable := [409, 503] }
    let seen (id state : String) : Resource :=
      { schema := Node.schema
        body := { values := .ofList [("uuid", .text id), ("provision_state", .text state)] } }
    resolveAll refs = .ok nodes ∧
      (∃ rounds, SortsNodes .replay g ⟨1000, some 2000⟩ nodes c rounds sorted.1 sorted.2) ∧
      sorted.1 = .ok
        { success := [seen "n1" "available"], failure := [seen "n2" "clean failed"]
          timeout := [seen "n1" "cleaning"] } ∧
      sorted.2.sent = [⟨0, look "/nodes/n1"⟩, ⟨0, look "/nodes/n2"⟩, ⟨0, look "/nodes/n1"⟩,
        ⟨1000, look "/nodes/n1"⟩] :=
  ⟨rfl, (wait_sorts_nodes .replay _ _ _ rfl).2, by decide +kernel, by decide +kernel⟩

end ControlPlane.Baremetal.Fleet
