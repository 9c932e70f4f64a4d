import ControlPlane.Find
import ControlPlane.Proofs.Listing.Course
import ControlPlane.Proofs.Listing.Start
import ControlPlane.Proofs.Reference

namespace ControlPlane

theorem Schema.route_of_uriField? {schema : Schema} {name : String} {f : Field}
    (h : schema.uriField? name = some f) : schema.route name = (.uri, f.wire) := by
  obtain ⟨hf, hl⟩ := Option.filter_eq_some_iff.mp h
  rw [Resource.route_eq (f := f) (by rw [lookup?, hf]; rfl), eq_of_beq hl]

namespace Find

open Listing (Ending Turn digest digestPages)

variable {σ : Type}

def isMatch (query : String) (r : Resource) : Bool := r.id? = some query ∨ r.name? = some query

-- What a server answers when it knows no such id, or takes a name for a malformed one.
def RefusesId : Error → Prop
  | .notFound _ | .resourceNotFound _ _ => True
  | .http details => details.status = 400
  | _ => False

def verdict (schema : Schema) (query : String) (ignoreMissing : Bool) (items : List Resource)
    (ending : Ending) : Except Error (Option Resource) :=
  match items.filter (isMatch query), ending with
  | _ :: _ :: _, _ => .error (.duplicateResource schema.kind query)
  | _, .failed e => .error e
  | [r], _ => .ok (some r)
  | [], _ =>
      if ignoreMissing then .ok none
      else .error (.resourceNotFound ("No " ++ schema.kind ++ " found for " ++ query) none)

-- The item fetched first: it has the query for its id and what the params give for its path.
structure IsSought (schema : Schema) (query : String) (params : Dict Value) (r : Resource) :
    Prop where
  given : ∃ given : Dict Value, r = .existing schema given ∧ ∀ name v,
    given.get? name = some v ↔ name = "id" ∧ v = .text query ∨
      name ≠ "id" ∧ params.get? name = some v ∧ ∃ f, schema.uriField? name = some f
  named : ∀ f, schema.field? "id" = some f → f.location = .body → f.HoldsText →
    r.id? = some query

structure ReadsListing (s : Session σ) (schema : Schema) (query : String) (ignoreMissing : Bool)
    (l : Listing) (d : Conversation σ) (turns : List Turn) (pages : Nat)
    (result : Except Error (Option Resource)) (c' : Conversation σ) : Prop where
  asked : s.askAll (turns.map (Turn.request l)) d = (turns.map Turn.answer, (l.drain s d).2)
  items : (l.drain s d).1.1 = (l.pagesOf turns).flatten
  outcome : result = verdict schema query ignoreMissing (l.drain s d).1.1 (l.drain s d).1.2
  settled : (∀ t ∈ turns, ∃ response, t.answer = .ok response) →
    result = verdict schema query ignoreMissing (l.pagesOf turns).flatten .exhausted
  sent : c' = (s.askAll ((turns.take pages).map (Turn.request l)) d).2
  whole : ((l.pagesOf turns).flatten.filter (isMatch query)).length < 2 → pages = turns.length
  enough : 2 ≤ ((l.pagesOf turns).flatten.filter (isMatch query)).length →
    2 ≤ (((l.pagesOf turns).take pages).flatten.filter (isMatch query)).length
  needed : ∀ j < pages, (((l.pagesOf turns).take j).flatten.filter (isMatch query)).length < 2

def GoesToListing (s : Session σ) (schema : Schema) (sought : Resource) (c d : Conversation σ) :
    Prop :=
  (schema.permits .fetch = false ∧ d = c) ∨
    (schema.permits .fetch = true ∧
      ∃ e, sought.perform s .fetch c = (.error e, d) ∧ RefusesId e)

structure FindsOne (s : Session σ) (schema : Schema) (query : String) (ignoreMissing : Bool)
    (params : Dict Value) (sought : Resource) (c : Conversation σ)
    (result : Except Error (Option Resource)) (c' : Conversation σ) : Prop where
  direct : schema.permits .fetch = true → ∀ url, sought.FoundAt url →
    ∀ answer d, s.request (schema.bareRequest .get url) c = (answer, d) →
      sought.perform s .fetch c = (answer.map (sought.absorb .fetch), d)
  fetched : schema.permits .fetch = true →
    ∀ r d, sought.perform s .fetch c = (.ok r, d) → result = .ok (some r) ∧ c' = d
  refused : schema.permits .fetch = true →
    ∀ e d, sought.perform s .fetch c = (.error e, d) → ¬RefusesId e → result = .error e ∧ c' = d
  unlisted : ∀ d, GoesToListing s schema sought c d → schema.permits .list = false →
    result = verdict schema query ignoreMissing [] .exhausted ∧ c' = d
  unstarted : ∀ d, GoesToListing s schema sought c d → schema.permits .list = true →
    ∀ e, Listing.start schema params true = .error e → result = .error e ∧ c' = d
  listed : ∀ d, GoesToListing s schema sought c d →
    ∀ l, Listing.start schema params true = .ok l →
      ∃ turns pages, ReadsListing s schema query ignoreMissing l d turns pages result c'

section

variable {s : Session σ} {schema : Schema} {query name : String} {params : Dict Value}
  {ignoreMissing : Bool} {c d : Conversation σ} {l : Listing} {items : List Resource} {f : Field}

theorem hasName_eq_isMatch (query : String) (r : Resource) : hasName query r = isMatch query r := by
  rw [isMatch, hasName, Bool.eq_iff_iff]
  simp

theorem mayBeName_iff {e : Error} : mayBeName e = true ↔ RefusesId e := by
  cases e <;> simp [mayBeName, RefusesId, Error.isNotFound, Error.status?, Error.refusal?]

theorem get?_given (schema : Schema) (query : String) (params : Dict Value) {v : Value} :
    ((params.filter fun name _ => (schema.uriField? name).isSome).insert "id" (.text query)).get? name =
        some v ↔
      name = "id" ∧ v = .text query ∨
        name ≠ "id" ∧ params.get? name = some v ∧ ∃ f, schema.uriField? name = some f := by
  rw [Dict.get?_insert]
  by_cases hname : "id" = name
  · simp [← hname, eq_comm]
  · rw [if_neg hname, Dict.get?_filter_eq_some_iff, Option.isSome_iff_exists]
    simp [Ne.symm hname]

theorem id?_candidate (hf : schema.field? "id" = some f) (hbody : f.location = .body)
    (htext : f.HoldsText) : (candidate schema query params).id? = some query := by
  have hroute : schema.route "id" = (.body, f.wire) := by
    rw [Resource.route_eq (f := f) (by rw [Schema.lookup?, hf]; rfl), hbody]
  refine Resource.id?_of_own (Resource.getText?_of_stored hf htext ?_)
  rw [Resource.stored?, hbody]
  refine Schema.get?_gather.mpr ⟨"id", ?_, hroute, ?_⟩
  · rw [get?_given]
    exact .inl ⟨rfl, rfl⟩
  · intro other w hw hother
    rcases (get?_given schema query params).mp hw with ⟨rfl, -⟩ | ⟨-, -, g, hg⟩
    · exact String.le_refl _
    · rw [Schema.route_of_uriField? hg] at hother
      simp at hother

theorem isSought_candidate (schema : Schema) (query : String) (params : Dict Value) :
    IsSought schema query params (candidate schema query params) where
  given := ⟨_, rfl, fun _ _ => get?_given schema query params⟩
  named _ := id?_candidate

theorem perform_candidate (hp : schema.permits .fetch = true) {url : String}
    (hu : (candidate schema query params).path true = .ok url) :
    (candidate schema query params).perform s .fetch c =
      ((s.request (schema.bareRequest .get url) c).1.map
          ((candidate schema query params).absorb .fetch),
        (s.request (schema.bareRequest .get url) c).2) :=
  Resource.perform_fetch hp hu

theorem digest_keepMatch_again (first : Resource) (items : List Resource) :
    digest (keepMatch schema query) (some first) items =
      match items.filter (isMatch query) with
      | [] => (some first, none)
      | _ :: _ => (some first, some (.failed (.duplicateResource schema.kind query))) := by
  induction items with
  | nil => rfl
  | cons r rest ih =>
      rw [digest, keepMatch, List.filter_cons, hasName_eq_isMatch]
      cases isMatch query r with
      | true => rfl
      | false => exact ih

theorem digest_keepMatch (items : List Resource) :
    digest (keepMatch schema query) none items =
      match items.filter (isMatch query) with
      | [] => (none, none)
      | [r] => (some r, none)
      | r :: _ :: _ => (some r, some (.failed (.duplicateResource schema.kind query))) := by
  induction items with
  | nil => rfl
  | cons r rest ih =>
      rw [digest, keepMatch, List.filter_cons, hasName_eq_isMatch]
      cases isMatch query r with
      | true =>
          simp only [if_true]
          rw [digest_keepMatch_again]
          cases rest.filter (isMatch query) <;> rfl
      | false => exact ih

theorem digest_keepMatch_none_iff (schema : Schema) :
    (digest (keepMatch schema query) none items).2 = none ↔
      (items.filter (isMatch query)).length < 2 := by
  rw [digest_keepMatch]
  rcases items.filter (isMatch query) with _ | ⟨r, _ | ⟨r', rest⟩⟩ <;> simp

def report : Option Resource × Ending → Except Error (Option Resource)
  | (_, .failed e) => .error e
  | (found, _) => .ok found

theorem search_eq (hp : schema.permits .list = true)
    (hl : Listing.start schema params true = .ok l) :
    search s schema query params d =
      (report (l.scan s (keepMatch schema query) none d).1,
        (l.scan s (keepMatch schema query) none d).2) := by
  rw [search, if_pos hp, hl]
  dsimp only
  rcases l.scan s (keepMatch schema query) none d with ⟨⟨found, _ | _ | e⟩, d'⟩ <;> rfl

theorem settle_digest (ending : Ending) :
    settle schema query ignoreMissing (report
        ((digest (keepMatch schema query) none items).1,
          (digest (keepMatch schema query) none items).2.getD ending)) =
      verdict schema query ignoreMissing items ending := by
  rw [digest_keepMatch]
  unfold verdict
  rcases items.filter (isMatch query) with _ | ⟨r, _ | ⟨r', rest⟩⟩ <;> cases ending <;> rfl

theorem readsListing_search (s : Session σ) (query : String) (ignoreMissing : Bool)
    (hl : Listing.start schema params true = .ok l) (d : Conversation σ) :
    ∃ turns pages, ReadsListing s schema query ignoreMissing l d turns pages
      (settle schema query ignoreMissing (search s schema query params d).1)
      (search s schema query params d).2 := by
  obtain ⟨hp, -, -, hstart⟩ := Listing.start_eq_ok_iff.mp hl
  obtain ⟨turns, ending, hread⟩ := Listing.exists_readAs (s := s) _ (l := l) (c := d) rfl
    (by rw [hstart]; rfl) (by rw [hstart]; rfl)
  have hdrain := hread.drain
  have hdigest := Listing.digestPages_eq (keepMatch schema query) (l.pagesOf turns) none
  obtain ⟨hall, hfirst, hbefore⟩ :=
    Listing.digestPages_count (keepMatch schema query) (l.pagesOf turns) none
  have hlength : (l.pagesOf turns).length = turns.length := List.length_map ..
  rw [digest_keepMatch_none_iff, hlength] at hall
  rw [Ne, digest_keepMatch_none_iff, Ne, digest_keepMatch_none_iff] at hfirst
  have hscan := hread.scan (keepMatch schema query) none
  rw [hdigest] at hscan
  have houtcome : settle schema query ignoreMissing (search s schema query params d).1 =
      verdict schema query ignoreMissing (l.pagesOf turns).flatten ending := by
    rw [search_eq hp hl, hscan]
    exact settle_digest ending
  refine ⟨turns, _, {
    asked := Prod.ext hread.answers (by rw [hdrain])
    items := by rw [hdrain]
    outcome := by rw [hdrain]; exact houtcome
    settled := ?_
    sent := by rw [search_eq hp hl, hscan]
    whole := hall
    enough := fun h => Nat.le_of_not_lt (hfirst (Nat.not_lt.mpr h))
    needed := fun j hj => (digest_keepMatch_none_iff schema).mp (hbefore j hj) }⟩
  intro hok
  rw [← Listing.course_exhausted hread.course hok]
  exact houtcome

theorem find_of_goesToListing (h : GoesToListing s schema (candidate schema query params) c d) :
    find s schema query ignoreMissing params c =
      (settle schema query ignoreMissing (search s schema query params d).1,
        (search s schema query params d).2) := by
  rcases h with ⟨hp, rfl⟩ | ⟨hp, e, he, hname⟩
  · rw [find, hp]
    rfl
  · rw [find, if_pos hp, he]
    dsimp only
    rw [if_pos (mayBeName_iff.mpr hname)]

theorem find_resolves_one_match (s : Session σ) (schema : Schema) (query : String)
    (ignoreMissing : Bool) (params : Dict Value) (c : Conversation σ) :
    ∃ sought, IsSought schema query params sought ∧
      FindsOne s schema query ignoreMissing params sought c
        (find s schema query ignoreMissing params c).1
        (find s schema query ignoreMissing params c).2 := by
  refine ⟨candidate schema query params, isSought_candidate schema query params, {
    direct := fun hp url hfound answer d hq => ?_
    fetched := fun hp r d hr => ?_
    refused := fun hp e d he hname => ?_
    unlisted := fun d hd hp => ?_
    unstarted := fun d hd hp e he => ?_
    listed := fun d hd l hl => ?_ }⟩
  · rw [perform_candidate hp hfound.path, hq]
  · rw [find, if_pos hp, hr]
    exact ⟨rfl, rfl⟩
  · rw [find, if_pos hp, he]
    dsimp only
    rw [if_neg (mt mayBeName_iff.mp hname)]
    exact ⟨rfl, rfl⟩
  · rw [find_of_goesToListing hd, search, hp]
    exact ⟨rfl, rfl⟩
  · rw [find_of_goesToListing hd, search, if_pos hp, he]
    exact ⟨rfl, rfl⟩
  · rw [find_of_goesToListing hd]
    exact readsListing_search s query ignoreMissing hl d

end

end Find

end ControlPlane
