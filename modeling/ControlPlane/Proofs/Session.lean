import ControlPlane.Session

namespace ControlPlane.Session

variable {σ : Type}

def askAll (s : Session σ) : List Request → Conversation σ →
    List (Except Error Response) × Conversation σ
  | [], c => ([], c)
  | q :: rest, c =>
      let (answer, c) := s.request q c
      let (answers, c) := s.askAll rest c
      (answer :: answers, c)

theorem askAll_cons {s : Session σ} {q : Request} {rest : List Request} {c c' : Conversation σ}
    {answer : Except Error Response} (h : s.request q c = (answer, c')) :
    s.askAll (q :: rest) c = (answer :: (s.askAll rest c').1, (s.askAll rest c').2) := by
  simp [askAll, h]

theorem sent_of_request (s : Session σ) {q : Request} {c c' : Conversation σ}
    {answer : Except Error Response} (h : s.request q c = (answer, c')) :
    c'.sent = c.sent ++ [⟨c.clock, s.dress q⟩] := by
  cases h
  rfl

theorem sent_request (s : Session σ) (q : Request) (c : Conversation σ) :
    (s.request q c).2.sent.map Sent.request = c.sent.map Sent.request ++ [s.dress q] := by
  simp [request]

theorem sent_askAll (s : Session σ) : ∀ (qs : List Request) (c : Conversation σ),
    (s.askAll qs c).2.sent.map Sent.request = c.sent.map Sent.request ++ qs.map s.dress := by
  intro qs
  induction qs with
  | nil => intro c; simp [askAll]
  | cons q rest ih =>
      intro c
      have hq : s.request q c = ((s.request q c).1, (s.request q c).2) := rfl
      rw [askAll_cons hq, ih, sent_request]
      simp

theorem askAll_append (s : Session σ) (qs others : List Request) : ∀ (c : Conversation σ),
    (s.askAll (qs ++ others) c).2 = (s.askAll others (s.askAll qs c).2).2 := by
  induction qs with
  | nil => intro c; rfl
  | cons q rest ih =>
      intro c
      have hq : s.request q c = ((s.request q c).1, (s.request q c).2) := rfl
      rw [List.cons_append, askAll_cons hq, askAll_cons hq]
      exact ih _

theorem sent_le_askAll (s : Session σ) (qs : List Request) : ∀ (c : Conversation σ),
    c.sent <+: (s.askAll qs c).2.sent := by
  induction qs with
  | nil => intro c; exact List.prefix_rfl
  | cons q rest ih =>
      intro c
      have hq : s.request q c = ((s.request q c).1, (s.request q c).2) := rfl
      have hfirst : c.sent <+: (s.request q c).2.sent := List.prefix_append ..
      rw [askAll_cons hq]
      exact hfirst.trans (ih _)

end ControlPlane.Session
