import Mathlib
import ControlPlane.Proofs.Decimal.Literal
import ControlPlane.Proofs.Listing.Course
import ControlPlane.Proofs.Listing.Start

namespace ControlPlane

def Request.param? (q : Request) (name : String) : Option String :=
  (q.params.find? fun p => p.1 == name).map (·.2)

structure MarkerServer (s : Schema) (uri : Dict Value) where
  stock : List (Dict Value)
  cap : Nat
  reply : List Value → Response
  cap_pos : 0 < cap
  identified : ∀ fields ∈ stock, Listing.listedId? s uri fields ≠ none
  distinct : (stock.map (Listing.listedId? s uri)).Nodup
  reply_items : ∀ items, Listing.pageItems s (reply items).content = items

namespace MarkerServer

variable {s : Schema} {uri : Dict Value}

def after (m : MarkerServer s uri) : Option String → List (Dict Value)
  | none => m.stock
  | some id => (m.stock.dropWhile fun fields => Listing.listedId? s uri fields != some id).drop 1

def page (m : MarkerServer s uri) (limit : Option Nat) (marker : Option String) :
    List (Dict Value) :=
  (m.after marker).take (min (limit.getD m.cap) m.cap)

def pageFor (m : MarkerServer s uri) (q : Request) : List (Dict Value) :=
  m.page ((q.param? "limit").map fun text => decimalValue text.toList) (q.param? "marker")

def answer (m : MarkerServer s uri) (q : Request) : Nat → Answer Nat
  | 0 => { result := .error .transport, peer := 0 }
  | patience + 1 =>
      { result := .ok (m.reply ((m.pageFor q).map Value.ofDict)), peer := patience }

def session (m : MarkerServer s uri) : Session Nat where
  answer := m.answer
  supply := id
  supply_lt := by
    intro q patience r h
    cases patience with
    | zero => simp [answer] at h
    | succ n => simp [answer]

theorem decimalValue_toString (n : Nat) : decimalValue (toString n).toList = n := by
  rw [Nat.toString_eq_ofList_toDigits, String.toList_ofList, decimalValue_eq,
    Nat.ofDigitChars_ten_toDigits]

theorem pageFor_pageRequest (m : MarkerServer s uri) {l : Listing} (h : l.filters = []) :
    m.pageFor l.pageRequest = m.page l.nextLimit l.marker := by
  have hm : l.pageRequest.param? "marker" = l.marker := by
    cases hn : l.nextLimit <;> cases hk : l.marker <;>
      simp [Listing.pageRequest, Request.param?, Listing.optionalPair, h, hn, hk]
  have hl : l.pageRequest.param? "limit" = l.nextLimit.map toString := by
    cases hn : l.nextLimit <;> cases hk : l.marker <;>
      simp [Listing.pageRequest, Request.param?, Listing.optionalPair, h, hn, hk]
  rw [pageFor, hm, hl, Option.map_map]
  congr 1
  cases l.nextLimit with
  | none => rfl
  | some n => exact congrArg some (decimalValue_toString n)

theorem after_of_split (m : MarkerServer s uri) (seen : List (Dict Value))
    {rest : List (Dict Value)} {fields : Dict Value} (h : m.stock = seen ++ fields :: rest) :
    m.after (Listing.listedId? s uri fields) = rest := by
  obtain ⟨id, hid⟩ := Option.ne_none_iff_exists'.mp
    (m.identified fields (by rw [h]; simp))
  have hn := m.distinct
  rw [h, List.map_append, List.map_cons, List.nodup_append] at hn
  have hseen : ∀ x ∈ seen, (Listing.listedId? s uri x != some id) = true := by
    intro x hx
    rw [← hid]
    exact bne_iff_ne.mpr (hn.2.2 _ (List.mem_map_of_mem hx) _ (List.mem_cons_self ..))
  rw [hid, after, h, List.dropWhile_append_of_pos hseen, List.dropWhile_cons]
  simp [hid]

theorem after_split (m : MarkerServer s uri) (marker : Option String) :
    ∃ seen, m.stock = seen ++ m.after marker := by
  cases marker with
  | none => exact ⟨[], rfl⟩
  | some id =>
      obtain ⟨seen, h⟩ := (List.drop_suffix 1 _).trans
        (List.dropWhile_suffix (l := m.stock) fun fields => Listing.listedId? s uri fields != some id)
      exact ⟨seen, h.symm⟩

theorem after_lastId (m : MarkerServer s uri) {marker : Option String} {n : Nat}
    (h : (m.after marker).take n ≠ []) :
    m.after (((m.after marker).take n).getLast?.bind (Listing.listedId? s uri)) =
      (m.after marker).drop n := by
  obtain ⟨seen, hseen⟩ := m.after_split marker
  obtain ⟨front, last, hlast⟩ : ∃ front last, (m.after marker).take n = front ++ [last] :=
    ⟨_, _, (List.dropLast_concat_getLast h).symm⟩
  rw [hlast, List.getLast?_append, List.getLast?_singleton]
  apply m.after_of_split (seen ++ front)
  calc m.stock = seen ++ ((m.after marker).take n ++ (m.after marker).drop n) := by
        rw [List.take_append_drop]; exact hseen
    _ = seen ++ front ++ last :: (m.after marker).drop n := by
        rw [hlast]; simp

structure Between (m : MarkerServer s uri) (l : Listing) (rest : List (Dict Value)) : Prop where
  schema : l.schema = s
  uri : l.uri = uri
  filters : l.filters = []
  paginated : l.paginated = true
  dry : Listing.records l.buffer = []
  rest : m.after l.marker = rest

variable {m : MarkerServer s uri} {l : Listing} {rest : List (Dict Value)}
  {c : Conversation Nat}

theorem pageRecords_reply (m : MarkerServer s uri) (ds : List (Dict Value)) :
    Listing.pageRecords s (m.reply (ds.map Value.ofDict)) = ds := by
  rw [Listing.pageRecords, m.reply_items, Listing.records_ofDict]

theorem scan_next_page (items : List Resource) (h : m.Between l rest) (hw : l.wantsPage = true) (hc : 0 < c.peer) :
    ∃ response c',
      Listing.pageRecords s response = rest.take (min (l.nextLimit.getD m.cap) m.cap) ∧
      c'.peer + 1 = c.peer ∧ c'.sent.length = c.sent.length + 1 ∧
      l.scan m.session Listing.collect items c =
        (l.afterPage response).scan m.session Listing.collect
          (items ++ (Listing.pageRecords s response).map l.item) c' := by
  obtain ⟨clock, sent, peer⟩ := c
  cases peer with
  | zero => exact absurd hc (Nat.lt_irrefl 0)
  | succ patience =>
      have hq : m.session.request l.pageRequest ⟨clock, sent, patience + 1⟩ =
          (.ok (m.reply ((m.pageFor l.pageRequest).map Value.ofDict)),
            ⟨clock, sent ++ [⟨clock, l.pageRequest⟩], patience⟩) := rfl
      refine ⟨m.reply ((m.pageFor l.pageRequest).map Value.ofDict),
        ⟨clock, sent ++ [⟨clock, l.pageRequest⟩], patience⟩, ?_, rfl, by simp, ?_⟩
      · rw [pageRecords_reply, m.pageFor_pageRequest h.filters, page, h.rest]
      · have hscan := Listing.scan_afterPage items h.dry hw hq
        rw [h.schema] at hscan
        exact hscan

theorem between_afterPage {response : Response} {n : Nat} (h : m.Between l rest)
    (hp : Listing.pageRecords s response = rest.take n) (hne : rest.take n ≠ []) :
    m.Between (l.afterPage response) (rest.drop n) where
  schema := h.schema
  uri := h.uri
  filters := h.filters
  paginated := h.paginated
  dry := rfl
  rest := by
    have hs := h.schema
    have hr := h.rest
    subst hs hr
    rw [Listing.marker_afterPage l (by rw [hp]; exact hne), h.uri, Listing.lastId?,
      Listing.Turn.records_ok, hp]
    exact m.after_lastId hne

theorem wantsPage_afterPage {response : Response} (h : m.Between l rest) :
    (l.afterPage response).wantsPage = true ↔ Listing.pageRecords s response ≠ [] ∧
      ∀ n ∈ l.nextLimit, n ≤ (Listing.pageRecords s response).length := by
  rw [Listing.wantsPage_afterPage, Listing.Turn.GoesOn, h.paginated, h.schema,
    Listing.Turn.records_ok]
  simp

theorem scan_pages_of {p : Nat} (hp : 0 < p) (hcap : p ≤ m.cap) (n : Nat) :
    ∀ {l : Listing} {rest : List (Dict Value)} (items : List Resource) {c : Conversation Nat},
      rest.length = n → m.Between l rest → l.wantsPage = true → l.nextLimit = some p →
      n / p + 1 ≤ c.peer →
      ∃ c', l.scan m.session Listing.collect items c =
          ((items ++ rest.map l.item, .exhausted), c') ∧
        c'.sent.length = c.sent.length + (n / p + 1) := by
  induction n using Nat.strongRecOn with
  | ind n ih =>
      intro l rest items c hn h hw hl hc
      have hpos : 0 < c.peer := Nat.lt_of_lt_of_le (Nat.succ_pos _) hc
      obtain ⟨response, c', hpage, hpeer, hsent, hscan⟩ :=
        scan_next_page items h hw hpos
      rw [hl, Option.getD_some, Nat.min_eq_left hcap] at hpage
      by_cases hfull : p ≤ n
      · have hlen : (rest.take p).length = p := by simp [hn, hfull]
        have hne : rest.take p ≠ [] := List.ne_nil_of_length_pos (by omega)
        have hnext := between_afterPage h hpage hne
        have hwant : (l.afterPage response).wantsPage = true := by
          rw [wantsPage_afterPage h, hpage, hl]
          exact ⟨hne, by simp [hlen]⟩
        have hlimit : (l.afterPage response).nextLimit = some p := by
          rw [Listing.nextLimit_afterPage, h.schema, hpage, hlen]
        have hdiv : n / p = (n - p) / p + 1 := Nat.div_eq_sub_div hp hfull
        obtain ⟨c'', hread, hcount⟩ :=
          ih (n - p) (by omega) (items ++ (rest.take p).map l.item) (c := c')
            (by simp [hn]) hnext hwant hlimit (by omega)
        refine ⟨c'', ?_, by omega⟩
        rw [hscan, hpage, hread, List.append_assoc]
        congr 3
        change (rest.take p).map l.item ++ (rest.drop p).map l.item = rest.map l.item
        rw [← List.map_append, List.take_append_drop]
      · have hall : rest.take p = rest := List.take_of_length_le (by omega)
        have hstop : (l.afterPage response).wantsPage = false := by
          rw [← Bool.not_eq_true, wantsPage_afterPage h, hpage, hl, hall]
          simp
          omega
        have hdiv : n / p = 0 := Nat.div_eq_of_lt (by omega)
        refine ⟨c', ?_, by omega⟩
        rw [hscan, Listing.scan_ended Listing.collect rfl hstop, hpage, hall]

theorem scan_unlimited (items : List Resource) (h : m.Between l rest) (hw : l.wantsPage = true)
    (hl : l.nextLimit = none) (hc : rest.length / m.cap + 2 ≤ c.peer) :
    ∃ c', l.scan m.session Listing.collect items c =
        ((items ++ rest.map l.item, .exhausted), c') ∧
      c'.sent.length ≤ c.sent.length + (rest.length / m.cap + 2) := by
  have hpos : 0 < c.peer := Nat.lt_of_lt_of_le (Nat.succ_pos _) hc
  obtain ⟨response, c', hpage, hpeer, hsent, hscan⟩ :=
    scan_next_page items h hw hpos
  rw [hl, Option.getD_none, Nat.min_self] at hpage
  have hpages := Nat.zero_le (rest.length / m.cap)
  by_cases hrest : rest = []
  · have hstop : (l.afterPage response).wantsPage = false := by
      rw [← Bool.not_eq_true, wantsPage_afterPage h, hpage, hrest]
      simp
    refine ⟨c', ?_, by omega⟩
    rw [hscan, Listing.scan_ended Listing.collect rfl hstop, hpage, hrest]
    simp
  · -- the size of the first page is what every later request asks for
    have hcap := m.cap_pos
    have hlen : 0 < rest.length := List.length_pos_iff.mpr hrest
    have hne : rest.take m.cap ≠ [] := by
      intro he
      have := congrArg List.length he
      simp only [List.length_take, List.length_nil] at this
      omega
    have hnext := between_afterPage h hpage hne
    have hwant : (l.afterPage response).wantsPage = true := by
      rw [wantsPage_afterPage h, hpage, hl]
      exact ⟨hne, by simp⟩
    have hlimit : (l.afterPage response).nextLimit = some (min m.cap rest.length) := by
      rw [Listing.nextLimit_afterPage, h.schema, hpage, List.length_take]
    have hcount : (rest.drop m.cap).length / min m.cap rest.length + 1 ≤
        rest.length / m.cap + 1 := by
      rw [List.length_drop]
      by_cases hfull : m.cap ≤ rest.length
      · rw [Nat.min_eq_left hfull, Nat.div_eq_sub_div hcap hfull]
        omega
      · rw [Nat.sub_eq_zero_of_le (by omega), Nat.zero_div]
        omega
    obtain ⟨c'', hread, hmore⟩ :=
      scan_pages_of (p := min m.cap rest.length) (by omega) (by omega) _
        (items ++ (rest.take m.cap).map l.item) (c := c') rfl hnext hwant hlimit
        (by omega)
    refine ⟨c'', ?_, by omega⟩
    rw [hscan, hpage, hread, List.append_assoc]
    congr 3
    change (rest.take m.cap).map l.item ++ (rest.drop m.cap).map l.item = rest.map l.item
    rw [← List.map_append, List.take_append_drop]

end MarkerServer

theorem list_marker_server_complete {s : Schema} {params : Dict Value} {path : String}
    (m : MarkerServer s (Listing.uriParams s params)) (hallow : s.permits .list = true)
    (hpath : s.collectionPath (Listing.uriParams s params) = .ok path)
    (hplain : ∀ name value, (Listing.queryParams s params).get? name = some value →
      name = "limit" ∨ name = "marker")
    (hlimit : ∀ p ∈ Listing.askedLimit? s params, 0 < p ∧ p ≤ m.cap) (c : Conversation Nat)
    (hc : (m.after (Listing.askedMarker? s params)).length /
      (Listing.askedLimit? s params).getD m.cap + 2 ≤ c.peer) :
    ∃ l c', Listing.start s params true = .ok l ∧
      l.drain m.session c =
        (((m.after (Listing.askedMarker? s params)).map fun fields =>
          Resource.ofServer s fields (Listing.uriParams s params), .exhausted), c') ∧
      c'.sent.length ≤ c.sent.length + ((m.after (Listing.askedMarker? s params)).length /
        (Listing.askedLimit? s params).getD m.cap + 2) := by
  let l : Listing :=
    { schema := s, path := path, filters := [], uri := Listing.uriParams s params
      paginated := true, limit := Listing.askedLimit? s params
      marker := Listing.askedMarker? s params }
  have hstart : Listing.start s params true = .ok l := by
    rw [Listing.start_eq_ok_iff, Listing.filterParams_eq_empty hplain]
    exact ⟨hallow, hpath, rfl, rfl⟩
  have hbetween : m.Between l (m.after (Listing.askedMarker? s params)) :=
    ⟨rfl, rfl, rfl, rfl, rfl, rfl⟩
  have hnext : l.nextLimit = Listing.askedLimit? s params := rfl
  cases ha : Listing.askedLimit? s params with
  | none =>
      rw [ha] at hc hnext
      obtain ⟨c', hread, hcount⟩ :=
        MarkerServer.scan_unlimited [] hbetween rfl hnext hc
      exact ⟨l, c', hstart, hread, hcount⟩
  | some p =>
      obtain ⟨hpos, hcap⟩ := hlimit p ha
      rw [ha] at hc hnext
      simp only [Option.getD_some] at hc ⊢
      obtain ⟨c', hread, hcount⟩ :=
        MarkerServer.scan_pages_of hpos hcap _ [] rfl hbetween rfl hnext
          (Nat.le_of_succ_le hc)
      exact ⟨l, c', hstart, hread, by omega⟩

def shelf : Schema := { kind := "lab.part", service := "lab", basePath := "/parts" }

def part (id : String) : Dict Value := .ofList [("id", .text id), ("name", .text "part")]

def shelfParams : Dict Value := .ofList [("marker", .text "p1")]

def shelfServer : MarkerServer shelf (Listing.uriParams shelf shelfParams) where
  stock := [part "p1", part "p2", part "p3", part "p4", part "p5"]
  cap := 2
  reply items := { status := 200, body := some (.list items) }
  cap_pos := by decide
  identified := by decide +kernel
  distinct := by decide +kernel
  reply_items := fun _ => rfl

theorem list_shelf_complete :
    ∃ l c', Listing.start shelf shelfParams true = .ok l ∧
      l.drain shelfServer.session { peer := 4 } =
        (([part "p2", part "p3", part "p4", part "p5"].map fun fields =>
          Resource.ofServer shelf fields (Listing.uriParams shelf shelfParams), .exhausted), c') ∧
      c'.sent.length ≤ 4 := by
  have hpath : shelf.collectionPath (Listing.uriParams shelf shelfParams) = .ok "/parts" := by cbv
  have hquery : Listing.queryParams shelf shelfParams = shelfParams := by decide +kernel
  have hlimit : Listing.askedLimit? shelf shelfParams = none := by decide +kernel
  have hafter : shelfServer.after (Listing.askedMarker? shelf shelfParams) =
      [part "p2", part "p3", part "p4", part "p5"] := by decide +kernel
  have hplain : ∀ name value, (Listing.queryParams shelf shelfParams).get? name = some value →
      name = "limit" ∨ name = "marker" := by
    intro name value h
    rw [hquery, ← Dict.mem_entries_iff] at h
    have hentries : shelfParams.entries = [("marker", .text "p1")] := by decide +kernel
    rw [hentries] at h
    simp only [List.mem_singleton, Prod.mk.injEq] at h
    exact .inr h.1
  have h := list_marker_server_complete shelfServer (by decide) hpath hplain
    (by simp [hlimit]) { peer := 4 } (by rw [hafter, hlimit]; decide)
  rw [hafter, hlimit] at h
  exact h

end ControlPlane
