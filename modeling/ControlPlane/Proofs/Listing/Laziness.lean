import ControlPlane.Proofs.Listing.Protocol

namespace ControlPlane.Listing

variable {σ : Type} {s : Session σ} {l : Listing} {c d : Conversation σ}

abbrev Pulled := Except Error (Option (Resource × Listing))

def advance (s : Session σ) (l : Listing) (c : Conversation σ) :
    (Pulled ⊕ Listing) × Conversation σ :=
  match l.buffer with
  | v :: rest =>
      match v.record? with
      | some fields =>
          let item := l.item fields
          (.inl (.ok (some (item,
            { l with buffer := rest, marker := item.id?, given := l.given.map (· + 1) }))), c)
      | none => (.inr { l with buffer := rest }, c)
  | [] =>
      if l.wantsPage then
        match s.request l.pageRequest c with
        | (.error e, c) => (.inl (.error e), c)
        | (.ok response, c) => (.inr (l.turnPage response), c)
      else (.inl (.ok none), c)

inductive Advances (s : Session σ) :
    Listing → Conversation σ → Nat → Pulled → Conversation σ → Prop
  | settled {l c result d} (h : l.advance s c = (.inl result, d)) : Advances s l c 1 result d
  | goesOn {l l' c c' n result d} (h : l.advance s c = (.inr l', c'))
      (rest : Advances s l' c' n result d) : Advances s l c (n + 1) result d

theorem Advances.unique {n n' : Nat} {result result' : Pulled} {d' : Conversation σ}
    (h : Advances s l c n result d) (h' : Advances s l c n' result' d') :
    n = n' ∧ result = result' ∧ d = d' := by
  induction h generalizing n' with
  | settled he =>
      cases h' with
      | settled he' =>
          have heq := he.symm.trans he'
          simp only [Prod.mk.injEq, Sum.inl.injEq] at heq
          exact ⟨rfl, heq.1, heq.2⟩
      | goesOn he' _ =>
          have heq := he.symm.trans he'
          simp at heq
  | goesOn he _ ih =>
      cases h' with
      | settled he' =>
          have heq := he.symm.trans he'
          simp at heq
      | goesOn he' rest' =>
          have heq := he.symm.trans he'
          simp only [Prod.mk.injEq, Sum.inr.injEq] at heq
          obtain ⟨rfl, rfl⟩ := heq
          obtain ⟨rfl, hresult, hd⟩ := ih rest'
          exact ⟨rfl, hresult, hd⟩

theorem pop?_cons_of_record {v : Value} {rest : List Value} {fields : Dict Value}
    (hb : l.buffer = v :: rest) (hv : v.record? = some fields) :
    l.pop? = some (l.item fields,
      { l with buffer := rest, marker := (l.item fields).id?, given := l.given.map (· + 1) }) := by
  simp [pop?, hb, firstRecord?, hv, item]

theorem pop?_cons_of_other {v : Value} {rest : List Value} (hb : l.buffer = v :: rest)
    (hv : v.record? = none) : l.pop? = ({ l with buffer := rest } : Listing).pop? := by
  simp only [pop?, hb, firstRecord?, hv]

theorem advances_page {n : Nat} {result : Pulled} (items : List Value) :
    ∀ {l : Listing}, l.buffer = items → Advances s { l with buffer := [] } c n result d →
    ∃ m ≤ items.length + n, match l.pop? with
      | some next => Advances s l c m (.ok (some next)) c
      | none => Advances s l c m result d := by
  induction items with
  | nil =>
      intro l hb h
      have hl : ({ l with buffer := [] } : Listing) = l := by rw [← hb]
      have hp : l.pop? = none := pop?_eq_none (by rw [hb]; rfl)
      rw [hl] at h
      exact ⟨n, Nat.le_add_left .., by rw [hp]; exact h⟩
  | cons v rest ih =>
      intro l hb h
      cases hv : v.record? with
      | some fields =>
          have hn : 1 ≤ (v :: rest).length + n := by simp; omega
          have hstep : l.advance s c = (.inl (.ok l.pop?), c) := by
            rw [pop?_cons_of_record hb hv, advance, hb]
            simp only [hv]
          rw [pop?_cons_of_record hb hv] at hstep ⊢
          exact ⟨1, hn, .settled hstep⟩
      | none =>
          have hstep : l.advance s c = (.inr { l with buffer := rest }, c) := by
            rw [advance, hb]
            simp only [hv]
          obtain ⟨m, hm, hrest⟩ := ih (l := { l with buffer := rest }) rfl h
          have hm' : m + 1 ≤ (v :: rest).length + n := by simp; omega
          refine ⟨m + 1, hm', ?_⟩
          rw [pop?_cons_of_other hb hv]
          cases hp : ({ l with buffer := rest } : Listing).pop? with
          | some next =>
              rw [hp] at hrest
              exact .goesOn hstep hrest
          | none =>
              rw [hp] at hrest
              exact .goesOn hstep hrest

theorem advances_last (hw : l.wantsPage = false) :
    ∃ m ≤ l.buffer.length + 1, Advances s l c m (.ok l.pop?) c := by
  have hdry : Advances s { l with buffer := [] } c 1 (.ok none) c :=
    .settled (by rw [advance]; exact if_neg (by rw [Bool.not_eq_true]; exact hw))
  obtain ⟨m, hm, h⟩ := advances_page l.buffer rfl hdry
  refine ⟨m, hm, ?_⟩
  cases hp : l.pop? with
  | some next => rw [hp] at h; exact h
  | none => rw [hp] at h; exact h

def ahead (s : Session σ) (l : Listing) (c : Conversation σ) : Nat :=
  match (s.request l.pageRequest c).1 with
  | .ok response => (pageItems l.schema response.content).length
  | .error _ => 0

theorem advances_dry (s : Session σ) (l : Listing) (c : Conversation σ) :
    ∃ m ≤ l.ahead s c + 2, Advances s { l with buffer := [] } c m
      (({ l with buffer := [] } : Listing).pull s c).1
      (({ l with buffer := [] } : Listing).pull s c).2 := by
  have hp : ({ l with buffer := [] } : Listing).pop? = none := pop?_eq_none rfl
  cases hw : ({ l with buffer := [] } : Listing).wantsPage with
  | false =>
      rw [pull_of_dry hp hw]
      exact ⟨1, by omega, .settled (by simp [advance, hw])⟩
  | true =>
      rcases hq : s.request ({ l with buffer := [] } : Listing).pageRequest c with ⟨e | response, c'⟩
      · rw [pull_of_failure hp hw hq]
        exact ⟨1, by omega, .settled (by simp [advance, hw, hq])⟩
      · rw [pull_of_page hp hw hq]
        have hlast : (l.turnPage response).wantsPage = false := by simp [turnPage, wantsPage]
        obtain ⟨m, hm, h⟩ := advances_last (s := s) (c := c') hlast
        have hahead : l.ahead s c = (l.turnPage response).buffer.length := by
          rw [ahead, show s.request l.pageRequest c = _ from hq]
          rfl
        exact ⟨m + 1, by omega, .goesOn (by simp [advance, hw, hq]; rfl) h⟩

theorem exists_advances (s : Session σ) (l : Listing) (c : Conversation σ) :
    ∃ n ≤ l.buffer.length + l.ahead s c + 2, Advances s l c n (l.pull s c).1 (l.pull s c).2 := by
  obtain ⟨m, hm, hdry⟩ := advances_dry s l c
  obtain ⟨n, hn, h⟩ := advances_page l.buffer rfl hdry
  refine ⟨n, by omega, ?_⟩
  cases hp : l.pop? with
  | some next =>
      rw [hp] at h
      rw [pull_of_pop? hp]
      exact h
  | none =>
      rw [hp] at h
      have hpull : l.pull s c = ({ l with buffer := [] } : Listing).pull s c := by
        rw [pull, pull, hp, pop?_eq_none rfl]
        rfl
      rw [hpull]
      exact h

theorem sent_pull (s : Session σ) (l : Listing) (c : Conversation σ) :
    (l.pull s c).2.sent = c.sent ∨
      (l.pull s c).2.sent = c.sent ++ [⟨c.clock, s.dress l.pageRequest⟩] := by
  cases hp : l.pop? with
  | some next => exact .inl (by rw [pull_of_pop? hp])
  | none =>
      cases hw : l.wantsPage with
      | false => exact .inl (by rw [pull_of_dry hp hw])
      | true => exact .inr (by rw [asked_pull s c hp hw]; rfl)

theorem records_ne_nil {items : List Value} {v : Value} {fields : Dict Value} (hm : v ∈ items)
    (hv : v.record? = some fields) : records items ≠ [] :=
  List.ne_nil_of_mem (List.mem_filterMap.mpr ⟨v, hm, hv⟩)

structure PullsOnce (s : Session σ) (l : Listing) (c : Conversation σ) : Prop where
  settles : ∃ n ≤ l.buffer.length + l.ahead s c + 2,
    Advances s l c n (l.pull s c).1 (l.pull s c).2
  unique : ∀ n result d, Advances s l c n result d → (result, d) = l.pull s c
  asks : (l.pull s c).2.sent = c.sent ∨
    (l.pull s c).2.sent = c.sent ++ [⟨c.clock, s.dress l.pageRequest⟩]
  gives : ∀ v ∈ l.buffer, ∀ fields, v.record? = some fields →
    ∃ next, l.pull s c = (.ok (some next), c)

theorem pullsOnce (s : Session σ) (l : Listing) (c : Conversation σ) : PullsOnce s l c where
  settles := exists_advances s l c
  unique n result d h := by
    obtain ⟨m, -, hpull⟩ := exists_advances s l c
    obtain ⟨-, hresult, hd⟩ := h.unique hpull
    exact Prod.ext hresult hd
  asks := sent_pull s l c
  gives v hm fields hv := by
    obtain ⟨first, rest, hrecords⟩ := List.exists_cons_of_ne_nil (records_ne_nil hm hv)
    obtain ⟨items, -, hpop⟩ := pop?_eq_some hrecords
    exact ⟨_, pull_of_pop? hpop⟩

def upTo (k : Nat) (items : List Resource) (r : Resource) : List Resource × Option Ending :=
  (items ++ [r], if items.length + 1 < k then none else some .stopped)

theorem scan_upTo (k : Nat) : ∀ {l : Listing} {c : Conversation σ} (items : List Resource), 0 < k →
    l.scan s (upTo (items.length + k)) items c =
      ((items ++ (l.take s k c).1.1, (l.take s k c).1.2), (l.take s k c).2) := by
  induction k with
  | zero => intro l c items hk; exact absurd hk (Nat.lt_irrefl 0)
  | succ k ih =>
      intro l c items _
      rw [scan_eq, take]
      rcases l.pull s c with ⟨e | (_ | ⟨r, l'⟩), c'⟩
      · simp
      · simp
      · simp only [upTo]
        cases k with
        | zero => simp [take]
        | succ k =>
            have hmore : items.length + 1 < items.length + (k + 1 + 1) := by omega
            have hlength : items.length + (k + 1 + 1) = (items ++ [r]).length + (k + 1) := by
              simp; omega
            rw [if_pos hmore]
            dsimp only
            rw [hlength, ih (items ++ [r]) (by omega)]
            simp

theorem digest_upTo {k : Nat} (rs : List Resource) : ∀ {items : List Resource}, items.length < k →
    digest (upTo k) items rs = (items ++ rs.take (k - items.length),
      if items.length + rs.length < k then none else some .stopped) := by
  induction rs with
  | nil => intro items hk; simp [digest, hk]
  | cons r rest ih =>
      intro items hk
      obtain ⟨m, hm⟩ : ∃ m, k - items.length = m + 1 := ⟨k - items.length - 1, by omega⟩
      rw [digest, upTo, hm, List.take_succ_cons]
      by_cases hmore : items.length + 1 < k
      · have hlength : (items ++ [r]).length < k := by simp; omega
        have hleft : k - (items ++ [r]).length = m := by simp; omega
        have htotal : (items ++ [r]).length + rest.length = items.length + (r :: rest).length := by
          simp; omega
        rw [if_pos hmore]
        dsimp only
        rw [ih hlength, hleft, htotal]
        simp
      · have hzero : m = 0 := by omega
        have hfull : ¬items.length + (r :: rest).length < k := by simp; omega
        rw [if_neg hmore, if_neg hfull, hzero]
        simp

theorem digest_upTo_nil {k : Nat} (hk : 0 < k) (rs : List Resource) :
    digest (upTo k) [] rs = (rs.take k, if rs.length < k then none else some .stopped) := by
  have hnone : ([] : List Resource).length < k := hk
  simpa using digest_upTo rs hnone

theorem digest_upTo_none_iff {k : Nat} (hk : 0 < k) {rs : List Resource} :
    (digest (upTo k) [] rs).2 = none ↔ rs.length < k := by
  rw [digest_upTo_nil hk]
  simp

structure ReadsFirst (s : Session σ) (l : Listing) (c : Conversation σ) (turns : List Turn)
    (k pages : Nat) : Prop where
  items : (l.take s k c).1.1 = (l.drain s c).1.1.take k
  asked : (l.take s k c).2 = (s.askAll ((turns.take pages).map (Turn.request l)) c).2
  sent : (l.take s k c).2.sent.map Sent.request =
    c.sent.map Sent.request ++ (turns.take pages).map fun t => s.dress (t.request l)
  begins : (l.take s k c).2.sent <+: (l.drain s c).2.sent
  needed : ∀ j < pages, ((l.pagesOf turns).take j).flatten.length < k
  enough : k ≤ (l.drain s c).1.1.length →
    k ≤ ((l.pagesOf turns).take pages).flatten.length ∧ (l.take s k c).1.2 = .stopped
  whole : (l.drain s c).1.1.length < k → l.take s k c = l.drain s c

theorem begins_of_asked {turns : List Turn} {ending : Ending} (h : l.ReadAs s c turns ending)
    {k pages : Nat}
    (hasked : (l.take s k c).2 = (s.askAll ((turns.take pages).map (Turn.request l)) c).2) :
    (l.take s k c).2.sent <+: (l.drain s c).2.sent := by
  have hsplit : turns.map (Turn.request l) =
      (turns.take pages).map (Turn.request l) ++ (turns.drop pages).map (Turn.request l) := by
    rw [← List.map_append, List.take_append_drop]
  rw [h.drain, hasked, hsplit, Session.askAll_append]
  exact Session.sent_le_askAll s _ _

theorem sent_of_asked {turns : List Turn} {k pages : Nat}
    (hasked : (l.take s k c).2 = (s.askAll ((turns.take pages).map (Turn.request l)) c).2) :
    (l.take s k c).2.sent.map Sent.request =
      c.sent.map Sent.request ++ (turns.take pages).map fun t => s.dress (t.request l) := by
  rw [hasked, Session.sent_askAll, List.map_map]
  rfl

theorem readsFirst_zero {turns : List Turn} {ending : Ending} (h : l.ReadAs s c turns ending) :
    ReadsFirst s l c turns 0 0 := by
  have hasked : (l.take s 0 c).2 = (s.askAll ((turns.take 0).map (Turn.request l)) c).2 := rfl
  exact {
    items := rfl
    asked := hasked
    sent := sent_of_asked hasked
    begins := begins_of_asked h hasked
    needed := fun j hj => absurd hj (Nat.not_lt_zero j)
    enough := fun _ => ⟨Nat.le_refl 0, rfl⟩
    whole := fun hk => absurd hk (Nat.not_lt_zero _) }

theorem take_eq {turns : List Turn} {ending : Ending} (h : l.ReadAs s c turns ending) {k : Nat}
    (hk : 0 < k) : l.take s k c =
      (((l.pagesOf turns).flatten.take k,
        if (l.pagesOf turns).flatten.length < k then ending else .stopped),
      (s.askAll ((turns.take (digestPages (upTo k) [] (l.pagesOf turns)).2).map
        (Turn.request l)) c).2) := by
  have hscan := h.scan (upTo k) []
  have htake := scan_upTo (s := s) (l := l) (c := c) k [] hk
  simp only [List.length_nil, Nat.zero_add, List.nil_append] at htake
  rw [htake, digestPages_eq, digest_upTo_nil hk] at hscan
  rw [show l.take s k c = _ from hscan]
  split <;> rfl

theorem readsFirst_of_pos {turns : List Turn} {ending : Ending} (h : l.ReadAs s c turns ending)
    {k : Nat} (hk : 0 < k) :
    ReadsFirst s l c turns k (digestPages (upTo k) [] (l.pagesOf turns)).2 := by
  obtain ⟨hall, hfirst, hbefore⟩ := digestPages_count (upTo k) (l.pagesOf turns) []
  have hlength : (l.pagesOf turns).length = turns.length := List.length_map ..
  rw [digest_upTo_none_iff hk, hlength] at hall
  rw [Ne, digest_upTo_none_iff hk, Ne, digest_upTo_none_iff hk] at hfirst
  have htake := take_eq h hk
  have hasked := congrArg Prod.snd htake
  have htotal : (l.drain s c).1.1.length = (l.pagesOf turns).flatten.length := by rw [h.drain]
  refine {
    items := by rw [htake, h.drain]
    asked := hasked
    sent := sent_of_asked hasked
    begins := begins_of_asked h hasked
    needed := fun j hj => (digest_upTo_none_iff hk).mp (hbefore j hj)
    enough := fun hle => ?_
    whole := fun hlt => ?_ }
  · have hnot : ¬(l.pagesOf turns).flatten.length < k := by omega
    exact ⟨Nat.le_of_not_lt (hfirst hnot), by rw [htake, if_neg hnot]⟩
  · have hless : (l.pagesOf turns).flatten.length < k := by omega
    rw [htake, h.drain, if_pos hless, hall hless, List.take_length,
      List.take_of_length_le (Nat.le_of_lt hless)]

theorem exists_readsFirst {turns : List Turn} {ending : Ending} (h : l.ReadAs s c turns ending)
    (k : Nat) : ∃ pages, ReadsFirst s l c turns k pages := by
  cases k with
  | zero => exact ⟨0, readsFirst_zero h⟩
  | succ k => exact ⟨_, readsFirst_of_pos h (Nat.succ_pos k)⟩

structure ReadsLazily (s : Session σ) (l : Listing) (c : Conversation σ) (turns : List Turn) :
    Prop where
  pulls : ∀ (l' : Listing) (d : Conversation σ), PullsOnce s l' d
  pages : (l.drain s c).1.1 = (l.pagesOf turns).flatten
  asked : (l.drain s c).2 = (s.askAll (turns.map (Turn.request l)) c).2
  answers : (s.askAll (turns.map (Turn.request l)) c).1 = turns.map Turn.answer
  first : ∀ k, ∃ pages, ReadsFirst s l c turns k pages

theorem list_reads_lazily {schema : Schema} {params : Dict Value} {paginated : Bool} {l : Listing}
    (h : start schema params paginated = .ok l) (s : Session σ) (c : Conversation σ) :
    ∃ turns, ReadsLazily s l c turns := by
  obtain ⟨-, -, -, hl⟩ := start_eq_ok_iff.mp h
  have hbuffer : records l.buffer = [] := by rw [hl]; rfl
  have hwants : l.wantsPage = true := by rw [hl]; rfl
  obtain ⟨turns, ending, hread⟩ := exists_readAs (s := s) _ (c := c) rfl hbuffer hwants
  exact
    ⟨turns, {
      pulls := pullsOnce s
      pages := by rw [hread.drain]
      asked := by rw [hread.drain]
      answers := hread.answers
      first := exists_readsFirst hread }⟩

theorem list_gadgets_reads_lazily :
    start gadgets gadgetParams true = .ok gadgetListing ∧
    (∃ turns, ReadsLazily .replay gadgetListing gadgetTalk turns) ∧
    gadgetListing.take .replay 1 gadgetTalk =
      (([{ schema := gadgets, body := { values := .ofList [("name", .text "a")] }
           uri := { values := .ofList [("lab", .text "l 1")] } }], .stopped),
      { sent :=
          [⟨0, { method := .get, url := "/labs/l%201/gadgets", service := some "lab"
                 params := [("name", "a"), ("limit", "2")] }⟩], peer := [.failure 503 ""] }) :=
  have h : start gadgets gadgetParams true = .ok gadgetListing := by cbv
  ⟨h, list_reads_lazily h .replay gadgetTalk, rfl⟩

end ControlPlane.Listing
