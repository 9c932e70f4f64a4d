import ControlPlane.Listing
import ControlPlane.Proofs.Data.Dict

namespace ControlPlane.Listing

def records (items : List Value) : List (Dict Value) := items.filterMap Value.record?

def pageRecords (s : Schema) (response : Response) : List (Dict Value) :=
  records (pageItems s response.content)

def item (l : Listing) (fields : Dict Value) : Resource := .ofServer l.schema fields l.uri

def markerAfter (l : Listing) (given : List (Dict Value)) : Option String :=
  match given.getLast? with
  | some fields => (l.item fields).id?
  | none => l.marker

def skim (l : Listing) (given : List (Dict Value)) : Listing :=
  { l with buffer := [], marker := l.markerAfter given, given := l.given.map (· + given.length) }

theorem record?_ofDict (d : Dict Value) : (Value.ofDict d).record? = some d := by
  simp [Value.ofDict, Value.record?]

theorem records_ofDict (ds : List (Dict Value)) : records (ds.map Value.ofDict) = ds := by
  induction ds with
  | nil => rfl
  | cons d rest ih =>
      have hd := record?_ofDict d
      simpa [records, List.filterMap_cons, hd] using ih

theorem firstRecord?_eq_none {items : List Value} (h : records items = []) :
    firstRecord? items = none := by
  induction items with
  | nil => rfl
  | cons v rest ih =>
      simp only [firstRecord?]
      cases hv : v.record? with
      | none => exact ih (by simpa [records, hv] using h)
      | some fields => simp [records, hv] at h

theorem firstRecord?_eq_some {items : List Value} {fields : Dict Value} {rest : List (Dict Value)}
    (h : records items = fields :: rest) :
    ∃ items', firstRecord? items = some (fields, items') ∧ records items' = rest := by
  induction items with
  | nil => simp [records] at h
  | cons v others ih =>
      simp only [firstRecord?]
      cases hv : v.record? with
      | none => exact ih (by simpa [records, hv] using h)
      | some fields' =>
          have h' : fields' = fields ∧ records others = rest := by simpa [records, hv] using h
          exact ⟨others, by simp [h'.1], h'.2⟩

theorem pop?_eq_none {l : Listing} (h : records l.buffer = []) : l.pop? = none := by
  simp [pop?, firstRecord?_eq_none h]

theorem pop?_eq_some {l : Listing} {fields : Dict Value} {rest : List (Dict Value)}
    (h : records l.buffer = fields :: rest) :
    ∃ items, records items = rest ∧ l.pop? = some (l.item fields,
      { l with buffer := items, marker := (l.item fields).id?, given := l.given.map (· + 1) }) := by
  obtain ⟨items, hf, hr⟩ := firstRecord?_eq_some h
  exact ⟨items, hr, by simp [pop?, hf, item]⟩

variable {σ β : Type} {s : Session σ} {l : Listing} {c c' : Conversation σ}

theorem pull_of_pop? {next : Resource × Listing} (h : l.pop? = some next) :
    l.pull s c = (.ok (some next), c) := by
  simp [pull, h]

theorem pull_of_dry (h : l.pop? = none) (hw : l.wantsPage = false) :
    l.pull s c = (.ok none, c) := by
  simp [pull, h, hw]

theorem pull_of_failure {e : Error} (h : l.pop? = none) (hw : l.wantsPage = true)
    (hq : s.request l.pageRequest c = (.error e, c')) : l.pull s c = (.error e, c') := by
  simp [pull, h, hw, hq]

theorem pull_of_page {response : Response} (h : l.pop? = none) (hw : l.wantsPage = true)
    (hq : s.request l.pageRequest c = (.ok response, c')) :
    l.pull s c = (.ok (l.turnPage response).pop?, c') := by
  simp [pull, h, hw, hq]

theorem asked_pull (s : Session σ) (c : Conversation σ) (h : l.pop? = none)
    (hw : l.wantsPage = true) : (l.pull s c).2 = (s.request l.pageRequest c).2 := by
  rcases hq : s.request l.pageRequest c with ⟨e | response, c'⟩
  · rw [pull_of_failure h hw hq]
  · rw [pull_of_page h hw hq]

theorem scan_eq (step : β → Resource → β × Option Ending) (acc : β) :
    l.scan s step acc c =
      match l.pull s c with
      | (.error e, c) => ((acc, .failed e), c)
      | (.ok none, c) => ((acc, .exhausted), c)
      | (.ok (some (r, l)), c) =>
          match step acc r with
          | (acc, some ending) => ((acc, ending), c)
          | (acc, none) => l.scan s step acc c := by
  rw [scan]
  split
  · rename_i h
    rw [h]
  · rename_i h
    rw [h]
  · rename_i r l' c' h
    rcases hs : step acc r with ⟨acc', _ | ending⟩ <;> simp only [h, hs]

def digest (step : β → Resource → β × Option Ending) : β → List Resource → β × Option Ending
  | acc, [] => (acc, none)
  | acc, r :: rest =>
      match step acc r with
      | (acc, some ending) => (acc, some ending)
      | (acc, none) => digest step acc rest

theorem skim_nil (l : Listing) : l.skim [] = { l with buffer := [] } := by
  simp [skim, markerAfter]

theorem skim_cons (l : Listing) (fields : Dict Value) (rest : List (Dict Value))
    (items : List Value) :
    ({ l with buffer := items, marker := (l.item fields).id?, given := l.given.map (· + 1) }
      : Listing).skim rest = l.skim (fields :: rest) := by
  have hm : ∀ g : Option Nat, ({ l with buffer := items, marker := (l.item fields).id?, given := g }
      : Listing).markerAfter rest = l.markerAfter (fields :: rest) := by
    intro g
    cases rest with
    | nil => rfl
    | cons f fs =>
        simp only [markerAfter, List.getLast?_cons_cons]
        rw [List.getLast?_cons]
        rfl
  simp only [skim, hm, List.length_cons]
  cases l.given with
  | none => rfl
  | some n => simp [Nat.add_assoc, Nat.add_comm 1]

theorem scan_of_dry (step : β → Resource → β × Option Ending) {acc : β}
    (h : records l.buffer = []) : l.scan s step acc c = (l.skim []).scan s step acc c := by
  have hp : l.pop? = none := pop?_eq_none h
  have hp' : (l.skim []).pop? = none := pop?_eq_none rfl
  rw [scan_eq, scan_eq, pull, pull, hp, hp', skim_nil]
  rfl

theorem scan_page (step : β → Resource → β × Option Ending) {given : List (Dict Value)} :
    ∀ {l : Listing} {acc : β}, records l.buffer = given →
    l.scan s step acc c =
      match digest step acc (given.map l.item) with
      | (acc, some ending) => ((acc, ending), c)
      | (acc, none) => (l.skim given).scan s step acc c := by
  induction given with
  | nil =>
      intro l acc h
      exact scan_of_dry step h
  | cons fields rest ih =>
      intro l acc h
      obtain ⟨items, hitems, hpop⟩ := pop?_eq_some h
      rw [scan_eq, pull_of_pop? hpop]
      simp only [List.map_cons, digest]
      rcases step acc (l.item fields) with ⟨acc', _ | ending⟩
      · simp only []
        rw [ih hitems, skim_cons]
        rfl
      · rfl

theorem scan_turn (step : β → Resource → β × Option Ending) {acc : β}
    (h : records l.buffer = []) :
    l.scan s step acc c =
      if l.wantsPage then
        match s.request l.pageRequest c with
        | (.error e, c) => ((acc, .failed e), c)
        | (.ok response, c) => (l.turnPage response).scan s step acc c
      else ((acc, .exhausted), c) := by
  have hp : l.pop? = none := pop?_eq_none h
  cases hw : l.wantsPage with
  | false => rw [scan_eq, pull_of_dry hp hw, if_neg Bool.false_ne_true]
  | true =>
      rw [if_pos rfl]
      rcases hq : s.request l.pageRequest c with ⟨e | response, c'⟩
      · rw [scan_eq, pull_of_failure hp hw hq]
      · rw [scan_eq, pull_of_page hp hw hq]
        dsimp only
        cases hn : (l.turnPage response).pop? with
        | some next => rw [scan_eq, pull_of_pop? hn]
        | none =>
            -- a page without records leaves nothing to ask for
            have hd : (l.turnPage response).wantsPage = false := by simp [turnPage, wantsPage]
            rw [scan_eq, pull_of_dry hn hd]

theorem scan_ended (step : β → Resource → β × Option Ending) {acc : β}
    (h : records l.buffer = []) (hw : l.wantsPage = false) :
    l.scan s step acc c = ((acc, .exhausted), c) := by
  rw [scan_eq, pull_of_dry (pop?_eq_none h) hw]

end ControlPlane.Listing
