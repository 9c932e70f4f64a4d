import Mathlib
import ControlPlane.Proofs.Listing.Course
import ControlPlane.Proofs.Listing.Start

namespace ControlPlane.Listing

variable {σ : Type}

structure FollowsMarkers (s : Session σ) (schema : Schema) (params : Dict Value)
    (paginated : Bool) (l : Listing) (c c' : Conversation σ) (turns : List Turn)
    (items : List Resource) (ending : Ending) : Prop where
  path : schema.collectionPath (uriParams schema params) = .ok l.path
  filters : schema.query.transpose (filterParams schema params) = .ok l.filters
  asked : s.askAll (turns.map (Turn.request l)) c = (turns.map Turn.answer, c')
  sent : c'.sent.map Sent.request =
    c.sent.map Sent.request ++ turns.map fun t => s.dress (t.request l)
  items : items = turns.flatMap fun t => (t.records schema).map fun fields =>
    { schema := schema, body := { values := fields },
      uri := { values := uriParams schema params } }
  first : ∃ t rest, turns = t :: rest ∧
    t.limit = askedLimit? schema params ∧ t.marker = askedMarker? schema params
  next : ∀ (j : Nat) (t u : Turn), turns[j]? = some t → turns[j + 1]? = some u →
    u.limit = some (t.records schema).length ∧
    u.marker = lastId? schema (uriParams schema params) t
  goesOn : ∀ (j : Nat) (t : Turn), turns[j]? = some t →
    (j + 1 < turns.length ↔ t.GoesOn schema paginated)
  failed : ∀ (j : Nat) (t : Turn) (e : Error), turns[j]? = some t → t.answer = .error e →
    j + 1 = turns.length ∧ ending = .failed e
  exhausted : (∀ t ∈ turns, ∃ response, t.answer = .ok response) → ending = .exhausted

theorem drain_follows_markers {schema : Schema} {params : Dict Value} {paginated : Bool}
    {l : Listing} (h : start schema params paginated = .ok l) (s : Session σ)
    (c : Conversation σ) :
    ∃ turns, FollowsMarkers s schema params paginated l c (l.drain s c).2 turns
      (l.drain s c).1.1 (l.drain s c).1.2 := by
  obtain ⟨-, hpath, hfilters, hl⟩ := start_eq_ok_iff.mp h
  have hbuffer : records l.buffer = [] := by rw [hl]; rfl
  have hwants : l.wantsPage = true := by rw [hl]; rfl
  obtain ⟨turns, ending, c', hcourse, hasked, hread⟩ :=
    scan_course (s := s) _ [] (c := c) rfl hbuffer hwants
  have hdrain : l.drain s c =
      ((turns.flatMap fun t => (t.records l.schema).map l.item, ending), c') := by
    rw [drain]
    exact hread
  have hsent := Session.sent_askAll s (turns.map (Turn.request l)) c
  rw [hasked, List.map_map] at hsent
  rw [hdrain]
  rw [hl] at hcourse
  exact
    ⟨turns, {
      path := hpath
      filters := hfilters
      asked := hasked
      sent := hsent
      items := by rw [hl]; rfl
      first := course_first hcourse
      next := course_next hcourse
      goesOn := course_goesOn hcourse
      failed := course_failed hcourse
      exhausted := course_exhausted hcourse }⟩

def gadgets : Schema :=
  { kind := "lab.gadget", service := "lab", basePath := "/labs/{lab}/gadgets"
    resourcesKey := some "gadgets", query := .ofNames ["name"]
    fields := FieldTable.base ++ [{ name := "lab", location := .uri }] }

def gadgetParams : Dict Value :=
  .ofList [("lab", .text "l 1"), ("limit", .text "2"), ("name", .text "a")]

def gadgetListing : Listing :=
  { schema := gadgets, path := "/labs/l%201/gadgets", filters := [("name", "a")]
    uri := .ofList [("lab", .text "l 1")], paginated := true, limit := some 2, marker := none }

def gadgetReply : Response :=
  { status := 200, body := some (.record [("gadgets", .list
      [.null, .record [("name", .text "a")], .integer 7, .record [("id", .text "g1")]])]) }

def gadgetTalk : Conversation (List Reply) := { peer := [.success gadgetReply, .failure 503 ""] }

theorem drain_gadgets_follows_markers :
    start gadgets gadgetParams true = .ok gadgetListing ∧
    (∃ turns, FollowsMarkers .replay gadgets gadgetParams true gadgetListing gadgetTalk
      (gadgetListing.drain .replay gadgetTalk).2 turns
      (gadgetListing.drain .replay gadgetTalk).1.1
      (gadgetListing.drain .replay gadgetTalk).1.2) ∧
    gadgetListing.drain .replay gadgetTalk =
      (([{ schema := gadgets, body := { values := .ofList [("name", .text "a")] }
           uri := { values := .ofList [("lab", .text "l 1")] } },
         { schema := gadgets, body := { values := .ofList [("id", .text "g1")] }
           uri := { values := .ofList [("lab", .text "l 1")] } }],
        .failed (.http { method := "GET", url := "/labs/l%201/gadgets", status := 503, message := "" })),
      { sent :=
          [⟨0, { method := .get, url := "/labs/l%201/gadgets", service := some "lab"
                 params := [("name", "a"), ("limit", "2")] }⟩,
           ⟨0, { method := .get, url := "/labs/l%201/gadgets", service := some "lab"
                 params := [("name", "a"), ("limit", "2"), ("marker", "g1")] }⟩], peer := [] }) := by
  have h : start gadgets gadgetParams true = .ok gadgetListing := by cbv
  refine ⟨h, drain_follows_markers h .replay gadgetTalk, ?_⟩
  -- a full page, then the request that fails
  have hfirst : Session.replay.request gadgetListing.pageRequest gadgetTalk =
      (.ok gadgetReply, _) := rfl
  have hnext : (gadgetListing.afterPage gadgetReply).wantsPage = true := rfl
  change gadgetListing.scan .replay collect [] gadgetTalk = _
  rw [scan_afterPage [] rfl rfl hfirst, scan_turn collect rfl, if_pos hnext]
  rfl

end ControlPlane.Listing
