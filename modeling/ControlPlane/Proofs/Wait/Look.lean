import ControlPlane.Proofs.Resource.Operation

namespace ControlPlane

structure Look (σ : Type) where
  seen : Resource
  talk : Conversation σ

namespace Look

variable {σ : Type} {s : Session σ} {k : Look σ}

def fetch (s : Session σ) (k : Look σ) : Except Error Resource × Conversation σ :=
  k.seen.perform s .fetch k.talk

def answer (s : Session σ) (k : Look σ) : Except Error Resource := (k.fetch s).1

def after (s : Session σ) (k : Look σ) : Conversation σ := (k.fetch s).2

def left (s : Session σ) (k : Look σ) : Resource :=
  match k.answer s with
  | .ok r => r
  | .error _ => k.seen

def sent (s : Session σ) (k : Look σ) : List Sent :=
  match k.seen.plan .fetch with
  | .ok (some q) => [⟨k.talk.clock, s.dress q⟩]
  | _ => []

theorem left_of_ok {r : Resource} (h : k.answer s = .ok r) : k.left s = r := by
  rw [left, h]

theorem left_of_error {e : Error} (h : k.answer s = .error e) : k.left s = k.seen := by
  rw [left, h]

theorem sent_after (s : Session σ) (k : Look σ) :
    (k.after s).sent = k.talk.sent ++ k.sent s := by
  rw [after, fetch, Resource.perform, sent]
  rcases k.seen.plan .fetch with e | (_ | q)
  · simp
  · simp
  · have hq : (s.request q k.talk).2.sent = k.talk.sent ++ [⟨k.talk.clock, s.dress q⟩] := rfl
    rcases h : s.request q k.talk with ⟨_ | _, _⟩ <;> simpa [h] using hq

theorem clock_le_after (s : Session σ) (k : Look σ) : k.talk.clock ≤ (k.after s).clock := by
  rw [after, fetch, Resource.perform]
  rcases k.seen.plan .fetch with e | (_ | q)
  · exact Nat.le_refl _
  · exact Nat.le_refl _
  · have hq : k.talk.clock ≤ (s.request q k.talk).2.clock := Nat.le_add_right _ _
    rcases h : s.request q k.talk with ⟨_ | _, _⟩ <;> simpa [h] using hq

theorem supply_after_lt {r : Resource} (h : k.answer s = .ok r) :
    s.supply (k.after s).peer < s.supply k.talk.peer :=
  Resource.supply_fetch_lt (Prod.ext h rfl)

theorem sent_of_ready (s : Session σ) (h : k.seen.Ready .fetch) : ∃ uri,
    k.seen.FoundAt uri ∧
    k.sent s = [⟨k.talk.clock, s.dress (k.seen.schema.bareRequest .get uri)⟩] := by
  obtain ⟨uri, hu⟩ := Resource.path_of_ready h
  refine ⟨uri, Resource.foundAt_of_path hu, ?_⟩
  rw [sent, Resource.plan_of_ready h hu]
  rfl

theorem plan_of_not_ready {r : Resource} (h : ¬r.Ready .fetch) :
    ∃ e, r.plan .fetch = .error e ∧ e.isNotFound = false := by
  have hw : r.HasWork .fetch := fun he => absurd he (by simp)
  by_cases hp : r.schema.permits (Operation.fetch).capability = true
  · by_cases hl : r.Located
    · have hid : r.id? = none := by
        apply Classical.byContradiction
        intro hid
        exact h ⟨hw, hp, hl, fun _ => hid⟩
      exact ⟨_, Resource.plan_of_not_named hw hp hl (by simp) hid, rfl⟩
    · obtain ⟨name, -, -, he⟩ := Resource.plan_of_not_located hw hp hl
      exact ⟨_, he, rfl⟩
  · exact ⟨_, by rw [Resource.plan_of_work hw, Resource.checked_of_not_permitted hp]; rfl, rfl⟩

theorem fetch_of_not_ready (s : Session σ) (h : ¬k.seen.Ready .fetch) : ∃ e,
    k.seen.plan .fetch = .error e ∧ e.isNotFound = false ∧ k.answer s = .error e ∧
    k.sent s = [] := by
  obtain ⟨e, he, hn⟩ := plan_of_not_ready h
  refine ⟨e, he, hn, ?_, ?_⟩
  · rw [answer, fetch, Resource.perform, he]
  · rw [sent, he]

end Look

end ControlPlane
