import ControlPlane.Proofs.Listing.Pages
import ControlPlane.Proofs.Resource.Operation
import ControlPlane.Proofs.Session

namespace ControlPlane.Listing

def elements : Option String → Value → List Value
  | none, .list items => items
  | some key, .record members =>
      match members.lookup key with
      | some (.list items) => items
      | _ => []
  | _, _ => []

def objects (items : List Value) : List (Dict Value) :=
  items.filterMap fun
    | .record members => some (.ofList members)
    | _ => none

theorem find?_eq_lookup (key : String) (members : List (String × Value)) :
    (members.find? fun e => e.1 == key).map (·.2) = members.lookup key := by
  induction members with
  | nil => rfl
  | cons e rest ih =>
      obtain ⟨k, v⟩ := e
      rw [List.find?_cons, List.lookup_cons, Bool.beq_comm]
      cases key == k
      · exact ih
      · rfl

theorem pageItems_eq (s : Schema) (body : Value) : pageItems s body = elements s.resourcesKey body := by
  rw [pageItems]
  cases s.resourcesKey with
  | none => cases body <;> rfl
  | some key =>
      cases body with
      | record members =>
          simp only [Value.member?, find?_eq_lookup, elements]
          rcases members.lookup key with _ | v
          · rfl
          · cases v <;> rfl
      | null | bool _ | integer _ | float _ | text _ | list _ => rfl

theorem records_eq_objects (items : List Value) : records items = objects items :=
  List.filterMap_congr fun v _ => by cases v <;> rfl

theorem pageRequest_eq (l : Listing) : l.pageRequest =
    { l.schema.bareRequest .get l.path with
      params := l.filters ++ (l.nextLimit.map fun n => ("limit", toString n)).toList ++
        (l.marker.map fun id => ("marker", id)).toList } := by
  rw [pageRequest]
  cases l.nextLimit <;> cases l.marker <;> rfl

structure Turn where
  limit : Option Nat
  marker : Option String
  answer : Except Error Response

namespace Turn

def request (l : Listing) (t : Turn) : Request :=
  { l.schema.bareRequest .get l.path with
    params := l.filters ++ (t.limit.map fun n => ("limit", toString n)).toList ++
      (t.marker.map fun id => ("marker", id)).toList }

theorem request_eq (l : Listing) (answer : Except Error Response) :
    Turn.request l ⟨l.nextLimit, l.marker, answer⟩ = l.pageRequest :=
  (pageRequest_eq l).symm

def records (s : Schema) (t : Turn) : List (Dict Value) :=
  match t.answer with
  | .ok response => objects (elements s.resourcesKey (response.body.getD .null))
  | .error _ => []

theorem records_ok (s : Schema) (limit : Option Nat) (marker : Option String)
    (response : Response) :
    Turn.records s ⟨limit, marker, .ok response⟩ = pageRecords s response := by
  rw [pageRecords, pageItems_eq, records_eq_objects]
  rfl

def GoesOn (s : Schema) (paginated : Bool) (t : Turn) : Prop :=
  paginated = true ∧ t.records s ≠ [] ∧ ∀ n ∈ t.limit, n ≤ (t.records s).length

end Turn

def listedId? (s : Schema) (uri fields : Dict Value) : Option String :=
  ({ schema := s, body := { values := fields }, uri := { values := uri } } : Resource).id?

def lastId? (s : Schema) (uri : Dict Value) (t : Turn) : Option String :=
  (t.records s).getLast?.bind (listedId? s uri)

inductive Course (s : Schema) (uri : Dict Value) (paginated : Bool) :
    Option Nat → Option String → List Turn → Ending → Prop
  | failed {limit marker e} :
      Course s uri paginated limit marker [⟨limit, marker, .error e⟩] (.failed e)
  | last {limit marker response} (h : ¬Turn.GoesOn s paginated ⟨limit, marker, .ok response⟩) :
      Course s uri paginated limit marker [⟨limit, marker, .ok response⟩] .exhausted
  | more {limit marker response turns ending}
      (h : Turn.GoesOn s paginated ⟨limit, marker, .ok response⟩)
      (rest : Course s uri paginated
        (some (Turn.records s ⟨limit, marker, .ok response⟩).length)
        (lastId? s uri ⟨limit, marker, .ok response⟩) turns ending) :
      Course s uri paginated limit marker (⟨limit, marker, .ok response⟩ :: turns) ending

variable {σ : Type}

def collect (items : List Resource) (r : Resource) : List Resource × Option Ending :=
  (items ++ [r], none)

theorem digest_collect (items : List Resource) (rs : List Resource) :
    digest collect items rs = (items ++ rs, none) := by
  induction rs generalizing items with
  | nil => simp [digest]
  | cons r rest ih => simp [digest, collect, ih]

def digestPages {β : Type} (step : β → Resource → β × Option Ending) :
    β → List (List Resource) → (β × Option Ending) × Nat
  | acc, [] => ((acc, none), 0)
  | acc, page :: rest =>
      match digest step acc page with
      | (acc, some ending) => ((acc, some ending), 1)
      | (acc, none) => ((digestPages step acc rest).1, (digestPages step acc rest).2 + 1)

def afterPage (l : Listing) (response : Response) : Listing :=
  (l.turnPage response).skim (pageRecords l.schema response)

theorem wantsPage_afterPage (l : Listing) (response : Response) :
    (l.afterPage response).wantsPage = true ↔
      Turn.GoesOn l.schema l.paginated ⟨l.nextLimit, l.marker, .ok response⟩ := by
  simp only [afterPage, skim, turnPage, wantsPage, Turn.GoesOn, Turn.records_ok, Option.map_some,
    Nat.zero_add, Bool.and_eq_true, bne_iff_ne, ne_eq, List.length_eq_zero_iff, and_assoc]
  cases l.nextLimit <;> simp

theorem nextLimit_afterPage (l : Listing) (response : Response) :
    (l.afterPage response).nextLimit = some (pageRecords l.schema response).length := by
  simp [afterPage, skim, turnPage, nextLimit]

theorem marker_afterPage (l : Listing) {response : Response}
    (h : pageRecords l.schema response ≠ []) : (l.afterPage response).marker =
      lastId? l.schema l.uri ⟨l.nextLimit, l.marker, .ok response⟩ := by
  obtain ⟨fields, hf⟩ : ∃ fields, (pageRecords l.schema response).getLast? = some fields :=
    Option.isSome_iff_exists.mp (by simpa using h)
  rw [lastId?, Turn.records_ok]
  simp only [afterPage, skim, markerAfter, hf, Option.bind_some]
  rfl

theorem scan_of_page {s : Session σ} {l : Listing} {c c' : Conversation σ} {response : Response}
    {β : Type} (step : β → Resource → β × Option Ending) (acc : β)
    (hb : Listing.records l.buffer = []) (hw : l.wantsPage = true)
    (hq : s.request l.pageRequest c = (.ok response, c')) :
    l.scan s step acc c =
      match digest step acc ((pageRecords l.schema response).map l.item) with
      | (acc, some ending) => ((acc, ending), c')
      | (acc, none) => (l.afterPage response).scan s step acc c' := by
  rw [scan_turn step hb, if_pos hw, hq]
  dsimp only
  rw [scan_page step (l := l.turnPage response) rfl]
  rfl

theorem scan_afterPage {s : Session σ} {l : Listing} {c c' : Conversation σ} {response : Response}
    (items : List Resource) (hb : Listing.records l.buffer = []) (hw : l.wantsPage = true)
    (hq : s.request l.pageRequest c = (.ok response, c')) :
    l.scan s collect items c = (l.afterPage response).scan s collect
      (items ++ (pageRecords l.schema response).map l.item) c' := by
  rw [scan_of_page collect items hb hw hq, digest_collect]

theorem askAll_turn {s : Session σ} {l : Listing} {c c' : Conversation σ}
    {answer : Except Error Response} (hq : s.request l.pageRequest c = (answer, c'))
    (turns : List Turn) :
    s.askAll ((⟨l.nextLimit, l.marker, answer⟩ :: turns).map (Turn.request l)) c =
      (answer :: (s.askAll (turns.map (Turn.request l)) c').1,
        (s.askAll (turns.map (Turn.request l)) c').2) := by
  rw [List.map_cons, Turn.request_eq]
  exact Session.askAll_cons hq

def pagesOf (l : Listing) (turns : List Turn) : List (List Resource) :=
  turns.map fun t => (t.records l.schema).map l.item

theorem pagesOf_cons (l : Listing) (limit : Option Nat) (marker : Option String)
    (response : Response) (turns : List Turn) :
    l.pagesOf (⟨limit, marker, .ok response⟩ :: turns) =
      (pageRecords l.schema response).map l.item :: l.pagesOf turns := by
  rw [pagesOf, List.map_cons, Turn.records_ok]
  rfl

theorem digestPages_of_none {β : Type} {step : β → Resource → β × Option Ending} {acc acc' : β}
    {page : List Resource} {rest : List (List Resource)} (h : digest step acc page = (acc', none)) :
    digestPages step acc (page :: rest) =
      ((digestPages step acc' rest).1, (digestPages step acc' rest).2 + 1) := by
  rw [digestPages, h]

theorem digestPages_of_some {β : Type} {step : β → Resource → β × Option Ending} {acc acc' : β}
    {page : List Resource} {rest : List (List Resource)} {ending : Ending}
    (h : digest step acc page = (acc', some ending)) :
    digestPages step acc (page :: rest) = ((acc', some ending), 1) := by
  rw [digestPages, h]

structure ReadAs (s : Session σ) (l : Listing) (c : Conversation σ) (turns : List Turn)
    (ending : Ending) : Prop where
  course : Course l.schema l.uri l.paginated l.nextLimit l.marker turns ending
  answers : (s.askAll (turns.map (Turn.request l)) c).1 = turns.map Turn.answer
  scan : ∀ {β : Type} (step : β → Resource → β × Option Ending) (acc : β),
    l.scan s step acc c =
      (((digestPages step acc (l.pagesOf turns)).1.1,
        (digestPages step acc (l.pagesOf turns)).1.2.getD ending),
      (s.askAll ((turns.take (digestPages step acc (l.pagesOf turns)).2).map
        (Turn.request l)) c).2)

theorem exists_readAs {s : Session σ} (n : Nat) : ∀ {l : Listing} {c : Conversation σ},
    s.supply c.peer = n → Listing.records l.buffer = [] → l.wantsPage = true →
    ∃ turns ending, l.ReadAs s c turns ending := by
  -- every page uses up some of the far end's supply
  induction n using Nat.strongRecOn with
  | ind n ih =>
      intro l c hn hb hw
      rcases hq : s.request l.pageRequest c with ⟨e | response, c'⟩
      · refine ⟨[⟨l.nextLimit, l.marker, .error e⟩], .failed e, .failed, ?_, ?_⟩
        · rw [askAll_turn hq]
          rfl
        · intro β step acc
          rw [scan_turn step hb, if_pos hw, hq]
          exact Prod.ext rfl (congrArg Prod.snd (askAll_turn hq [])).symm
      · cases hnext : (l.afterPage response).wantsPage with
        | false =>
            have hlast := mt (wantsPage_afterPage l response).mpr (by simp [hnext])
            refine ⟨[⟨l.nextLimit, l.marker, .ok response⟩], .exhausted, .last hlast, ?_, ?_⟩
            · rw [askAll_turn hq]
              rfl
            · intro β step acc
              rw [scan_of_page step acc hb hw hq]
              rcases hd : digest step acc _ with ⟨acc', _ | e⟩
              · rw [pagesOf_cons, digestPages_of_none hd]
                dsimp only
                rw [scan_ended step rfl hnext]
                exact Prod.ext rfl (congrArg Prod.snd (askAll_turn hq [])).symm
              · rw [pagesOf_cons, digestPages_of_some hd]
                exact Prod.ext rfl (congrArg Prod.snd (askAll_turn hq [])).symm
        | true =>
            have hgo := (wantsPage_afterPage l response).mp hnext
            have hlt : s.supply c'.peer < n := hn ▸ Session.supply_request_lt hq
            obtain ⟨turns, ending, hrest⟩ := ih _ hlt (l := l.afterPage response) rfl rfl hnext
            have hrecords : pageRecords l.schema response ≠ [] := Turn.records_ok .. ▸ hgo.2.1
            have hcourse := hrest.course
            rw [nextLimit_afterPage, marker_afterPage l hrecords,
              ← Turn.records_ok l.schema l.nextLimit l.marker] at hcourse
            refine ⟨⟨l.nextLimit, l.marker, .ok response⟩ :: turns, ending, .more hgo hcourse,
              ?_, ?_⟩
            · rw [askAll_turn hq]
              exact congrArg (List.cons _) hrest.answers
            · intro β step acc
              rw [scan_of_page step acc hb hw hq]
              rcases hd : digest step acc _ with ⟨acc', _ | e⟩
              · rw [pagesOf_cons, digestPages_of_none hd]
                dsimp only
                rw [hrest.scan]
                exact Prod.ext rfl (congrArg Prod.snd (askAll_turn hq _)).symm
              · rw [pagesOf_cons, digestPages_of_some hd]
                exact Prod.ext rfl (congrArg Prod.snd (askAll_turn hq [])).symm

theorem digest_append {β : Type} (step : β → Resource → β × Option Ending)
    (rs others : List Resource) : ∀ acc, digest step acc (rs ++ others) =
      match digest step acc rs with
      | (acc, some ending) => (acc, some ending)
      | (acc, none) => digest step acc others := by
  induction rs with
  | nil => intro acc; rfl
  | cons r rest ih =>
      intro acc
      rw [List.cons_append, digest, digest]
      rcases step acc r with ⟨acc', _ | ending⟩
      · exact ih acc'
      · rfl

theorem digestPages_eq {β : Type} (step : β → Resource → β × Option Ending)
    (pages : List (List Resource)) :
    ∀ acc, (digestPages step acc pages).1 = digest step acc pages.flatten := by
  induction pages with
  | nil => intro acc; rfl
  | cons page rest ih =>
      intro acc
      rw [List.flatten_cons, digest_append]
      rcases hd : digest step acc page with ⟨acc', _ | ending⟩
      · rw [digestPages_of_none hd]
        exact ih acc'
      · rw [digestPages_of_some hd]

theorem digestPages_count {β : Type} (step : β → Resource → β × Option Ending)
    (pages : List (List Resource)) : ∀ acc,
    ((digest step acc pages.flatten).2 = none → (digestPages step acc pages).2 = pages.length) ∧
      ((digest step acc pages.flatten).2 ≠ none →
        (digest step acc (pages.take (digestPages step acc pages).2).flatten).2 ≠ none) ∧
      ∀ j < (digestPages step acc pages).2, (digest step acc (pages.take j).flatten).2 = none := by
  induction pages with
  | nil => intro acc; simp [digestPages, digest]
  | cons page rest ih =>
      intro acc
      rcases hd : digest step acc page with ⟨acc', _ | ending⟩
      · obtain ⟨hall, hfirst, hbefore⟩ := ih acc'
        rw [digestPages_of_none hd, List.flatten_cons, digest_append, hd]
        refine ⟨fun h => by rw [hall h]; rfl, fun h => ?_, fun j hj => ?_⟩
        · rw [List.take_succ_cons, List.flatten_cons, digest_append, hd]
          exact hfirst h
        · cases j with
          | zero => rfl
          | succ j =>
              rw [List.take_succ_cons, List.flatten_cons, digest_append, hd]
              exact hbefore j (Nat.lt_of_succ_lt_succ hj)
      · rw [digestPages_of_some hd, List.flatten_cons, digest_append, hd]
        refine ⟨fun h => by simp at h, fun _ => ?_, fun j hj => ?_⟩
        · simp [hd]
        · obtain rfl : j = 0 := by omega
          rfl

theorem ReadAs.collect {s : Session σ} {l : Listing} {c : Conversation σ} {turns : List Turn}
    {ending : Ending} (h : l.ReadAs s c turns ending) (items : List Resource) :
    l.scan s collect items c =
      ((items ++ (l.pagesOf turns).flatten, ending),
        (s.askAll (turns.map (Turn.request l)) c).2) := by
  have hdigest := digest_collect items (l.pagesOf turns).flatten
  have hlength : (l.pagesOf turns).length = turns.length := List.length_map ..
  rw [h.scan, digestPages_eq, hdigest,
    (digestPages_count Listing.collect _ items).1 (by rw [hdigest]), hlength, List.take_length]
  rfl

theorem ReadAs.drain {s : Session σ} {l : Listing} {c : Conversation σ} {turns : List Turn}
    {ending : Ending} (h : l.ReadAs s c turns ending) : l.drain s c =
      (((l.pagesOf turns).flatten, ending), (s.askAll (turns.map (Turn.request l)) c).2) :=
  h.collect []

theorem scan_course {s : Session σ} (n : Nat) {l : Listing} (items : List Resource)
    {c : Conversation σ} (hn : s.supply c.peer = n) (hb : Listing.records l.buffer = [])
    (hw : l.wantsPage = true) :
    ∃ turns ending c', Course l.schema l.uri l.paginated l.nextLimit l.marker turns ending ∧
      s.askAll (turns.map (Turn.request l)) c = (turns.map Turn.answer, c') ∧
      l.scan s collect items c =
        ((items ++ turns.flatMap fun t => (t.records l.schema).map l.item, ending), c') := by
  obtain ⟨turns, ending, h⟩ := exists_readAs n hn hb hw
  refine ⟨turns, ending, _, h.course, Prod.ext h.answers rfl, ?_⟩
  rw [h.collect, List.flatMap_def]
  rfl

section

variable {s : Schema} {uri : Dict Value} {paginated : Bool} {limit : Option Nat}
  {marker : Option String} {turns : List Turn} {ending : Ending}

theorem course_first (h : Course s uri paginated limit marker turns ending) :
    ∃ t rest, turns = t :: rest ∧ t.limit = limit ∧ t.marker = marker := by
  cases h with
  | failed => exact ⟨_, _, rfl, rfl, rfl⟩
  | last _ => exact ⟨_, _, rfl, rfl, rfl⟩
  | more _ _ => exact ⟨_, _, rfl, rfl, rfl⟩

theorem course_next (h : Course s uri paginated limit marker turns ending) :
    ∀ (j : Nat) (t u : Turn), turns[j]? = some t → turns[j + 1]? = some u →
      u.limit = some (t.records s).length ∧ u.marker = lastId? s uri t := by
  induction h with
  | failed => intro j t u _ hu; simp at hu
  | last _ => intro j t u _ hu; simp at hu
  | @more limit marker response turns ending _ rest ih =>
      intro j t u ht hu
      cases j with
      | zero =>
          obtain ⟨first, others, rfl, hl, hm⟩ := course_first rest
          simp only [List.getElem?_cons_zero, List.getElem?_cons_succ, Option.some.injEq] at ht hu
          subst ht hu
          exact ⟨hl, hm⟩
      | succ j => exact ih j t u (by simpa using ht) (by simpa using hu)

theorem sole_turn {t u : Turn} {j : Nat} (h : [t][j]? = some u) : j = 0 ∧ t = u := by
  rw [List.getElem?_singleton] at h
  split at h
  · rename_i hj
    exact ⟨hj, Option.some.inj h⟩
  · simp at h

theorem course_goesOn (h : Course s uri paginated limit marker turns ending) :
    ∀ (j : Nat) (t : Turn), turns[j]? = some t →
      (j + 1 < turns.length ↔ t.GoesOn s paginated) := by
  induction h with
  | failed =>
      intro j t ht
      obtain ⟨rfl, rfl⟩ := sole_turn ht
      simp [Turn.GoesOn, Turn.records]
  | last hlast =>
      intro j t ht
      obtain ⟨rfl, rfl⟩ := sole_turn ht
      simp [hlast]
  | more hgo rest ih =>
      intro j t ht
      cases j with
      | zero =>
          obtain ⟨first, others, rfl, -, -⟩ := course_first rest
          simp only [List.getElem?_cons_zero, Option.some.injEq] at ht
          subst ht
          simp [hgo]
      | succ j =>
          rw [List.length_cons, Nat.add_lt_add_iff_right]
          exact ih j t (by simpa using ht)

theorem course_failed (h : Course s uri paginated limit marker turns ending) :
    ∀ (j : Nat) (t : Turn) (e : Error), turns[j]? = some t → t.answer = .error e →
      j + 1 = turns.length ∧ ending = .failed e := by
  induction h with
  | failed =>
      intro j t e ht he
      obtain ⟨rfl, rfl⟩ := sole_turn ht
      exact ⟨rfl, congrArg Ending.failed (Except.error.inj he)⟩
  | last _ =>
      intro j t e ht he
      obtain ⟨rfl, rfl⟩ := sole_turn ht
      simp at he
  | more _ _ ih =>
      intro j t e ht he
      cases j with
      | zero =>
          simp only [List.getElem?_cons_zero, Option.some.injEq] at ht
          subst ht
          simp at he
      | succ j =>
          obtain ⟨hj, hend⟩ := ih j t e (by simpa using ht) he
          exact ⟨by simp [hj], hend⟩

theorem course_exhausted (h : Course s uri paginated limit marker turns ending)
    (hok : ∀ t ∈ turns, ∃ response, t.answer = .ok response) : ending = .exhausted := by
  induction h with
  | failed =>
      obtain ⟨response, hr⟩ := hok _ (List.mem_cons_self ..)
      simp at hr
  | last _ => rfl
  | more _ _ ih => exact ih fun t ht => hok t (List.mem_cons_of_mem _ ht)

end

end ControlPlane.Listing
