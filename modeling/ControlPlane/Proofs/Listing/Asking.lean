import ControlPlane.Proofs.Listing.Course
import ControlPlane.Proofs.Listing.Start

namespace ControlPlane.Listing

variable {σ : Type} {s : Schema} {params : Dict Value} {paginated : Bool} {l : Listing}

theorem Course.opens {uri : Dict Value} {limit : Option Nat} {marker : Option String}
    {turns : List Turn} {ending : Ending} (h : Course s uri paginated limit marker turns ending) :
    ∃ answer rest, turns = ⟨limit, marker, answer⟩ :: rest := by
  cases h with
  | failed => exact ⟨_, [], rfl⟩
  | last => exact ⟨_, [], rfl⟩
  | more => exact ⟨_, _, rfl⟩

theorem conversation_all (session : Session σ) (c : Conversation σ)
    (h : start s params paginated = .ok l) :
    (all session s params paginated c).2 = (l.drain session c).2 := by
  rw [all, h]
  dsimp only
  rcases l.drain session c with ⟨⟨items, _ | _ | e⟩, c'⟩ <;> rfl

theorem askAll_of_all (session : Session σ) (c : Conversation σ)
    (h : start s params paginated = .ok l) : ∃ turns : List Turn,
      (all session s params paginated c).2 =
        (session.askAll (l.pageRequest :: turns.map (Turn.request l)) c).2 := by
  obtain ⟨-, -, -, hl⟩ := start_eq_ok_iff.mp h
  obtain ⟨turns, ending, hread⟩ := exists_readAs (s := session) (l := l) (c := c) _ rfl
    (by rw [hl]; rfl) (by rw [hl]; rfl)
  obtain ⟨answer, rest, rfl⟩ := hread.course.opens
  exact ⟨rest, by rw [conversation_all session c h, hread.drain, List.map_cons, Turn.request_eq]⟩

theorem first_of_all (session : Session σ) (c : Conversation σ)
    (h : start s params paginated = .ok l) :
    c.sent ++ [⟨c.clock, session.dress l.pageRequest⟩] <+:
      (all session s params paginated c).2.sent := by
  obtain ⟨turns, hall⟩ := askAll_of_all session c h
  rw [hall]
  exact Session.sent_le_askAll session (turns.map (Turn.request l))
    (session.request l.pageRequest c).2

theorem requests_of_all (session : Session σ) (c : Conversation σ)
    (h : start s params paginated = .ok l) : ∃ requests : List Request,
      (all session s params paginated c).2.sent.map Sent.request =
        c.sent.map Sent.request ++ requests.map session.dress ∧ requests ≠ [] ∧
      ∀ q ∈ requests, q.method = .get ∧ q.url = l.path := by
  obtain ⟨turns, hall⟩ := askAll_of_all session c h
  refine ⟨_, by rw [hall, Session.sent_askAll], List.cons_ne_nil _ _, fun q hq => ?_⟩
  rcases List.mem_cons.mp hq with rfl | hq
  · exact ⟨rfl, rfl⟩
  · obtain ⟨t, -, rfl⟩ := List.mem_map.mp hq
    exact ⟨rfl, rfl⟩

end ControlPlane.Listing
