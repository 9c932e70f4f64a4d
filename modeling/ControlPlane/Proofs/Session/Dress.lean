import ControlPlane.Proofs.Resource.Operation
import ControlPlane.Listing
import ControlPlane.Reference

namespace ControlPlane

variable {σ α β : Type}

def Sent.dressed (a : Sent) (s : Session σ) : Sent := ⟨a.time, s.dress a.request⟩

def Session.AnswersLike (s t : Session σ) : Prop :=
  ∀ q p, t.answer (t.dress q) p = s.answer (s.dress q) p

structure Conversation.Level (c d : Conversation σ) : Prop where
  clock : d.clock = c.clock
  peer : d.peer = c.peer

abbrev Dealing (σ α : Type) : Type := Session σ → Conversation σ → α × Conversation σ

namespace Dealing

variable {P : Request → Prop} {f f' : Dealing σ α} {g : α → Dealing σ β} {s : Session σ}
  {c : Conversation σ} {asks more : List Sent} {q : Request}

structure Asks (f : Dealing σ α) (s : Session σ) (c : Conversation σ) (asks : List Sent) : Prop where
  sent : (f s c).2.sent = c.sent ++ asks.map (·.dressed s)
  result : ∀ t d, s.AnswersLike t → c.Level d → (f t d).1 = (f s c).1
  level : ∀ t d, s.AnswersLike t → c.Level d → (f s c).2.Level (f t d).2
  alike : ∀ t d, s.AnswersLike t → c.Level d → (f t d).2.sent = d.sent ++ asks.map (·.dressed t)

def Uses (P : Request → Prop) (f : Dealing σ α) : Prop :=
  ∀ s c, ∃ asks, f.Asks s c asks ∧ ∀ a ∈ asks, P a.request

theorem asks_pure (x : α) (s : Session σ) (c : Conversation σ) : Asks (fun _ c => (x, c)) s c [] where
  sent := by simp
  result _ _ _ _ := rfl
  level _ _ _ hlevel := hlevel
  alike _ _ _ _ := by simp

theorem asks_request (q : Request) (s : Session σ) (c : Conversation σ) :
    Asks (fun s c => s.request q c) s c [⟨c.clock, q⟩] where
  sent := rfl
  result t d hlike hlevel := by
    change (t.answer (t.dress q) d.peer).result = (s.answer (s.dress q) c.peer).result
    rw [hlike, hlevel.peer]
  level t d hlike hlevel := by
    refine ⟨?_, ?_⟩
    · change d.clock + (t.answer (t.dress q) d.peer).duration =
        c.clock + (s.answer (s.dress q) c.peer).duration
      rw [hlike, hlevel.peer, hlevel.clock]
    · change (t.answer (t.dress q) d.peer).peer = (s.answer (s.dress q) c.peer).peer
      rw [hlike, hlevel.peer]
  alike t d hlike hlevel := by
    change d.sent ++ [⟨d.clock, t.dress q⟩] = d.sent ++ [⟨c.clock, t.dress q⟩]
    rw [hlevel.clock]

theorem asks_map (hf : f.Asks s c asks) (h : α → β) :
    Asks (fun s c => (h (f s c).1, (f s c).2)) s c asks where
  sent := hf.sent
  result t d hlike hlevel := congrArg h (hf.result t d hlike hlevel)
  level := hf.level
  alike := hf.alike

theorem Uses.pure (x : α) : Uses P (fun (_ : Session σ) c => (x, c)) :=
  fun s c => ⟨[], asks_pure x s c, by simp⟩

theorem Uses.request (hq : P q) : Uses P (fun (s : Session σ) c => s.request q c) :=
  fun s c => ⟨_, asks_request q s c, by simpa using hq⟩

theorem Uses.map (hf : Uses P f) (h : α → β) : Uses P (fun s c => (h (f s c).1, (f s c).2)) :=
  fun s c => (hf s c).imp fun _ hasks => ⟨asks_map hasks.1 h, hasks.2⟩

theorem Uses.congr (hf : Uses P f) (h : ∀ s c, f' s c = f s c) : Uses P f' := by
  obtain rfl : f' = f := funext fun s => funext (h s)
  exact hf

end Dealing

end ControlPlane
