import Mathlib
import ControlPlane.Http.Gateway
import ControlPlane.Proofs.Data.Dict

namespace ControlPlane

theorem Text.asciiLower_asciiLower (s : String) : asciiLower (asciiLower s) = asciiLower s := by
  simp [asciiLower, Function.comp_def]

def Dict.InLowercase (headers : Dict String) : Prop :=
  ∀ name text, headers.get? name = some text → Text.asciiLower name = name

theorem Dict.inLowercase_insertAll {headers : Dict String} (h : headers.InLowercase)
    {l : List (String × String)} (hl : ∀ e ∈ l, Text.asciiLower e.1 = e.1) :
    (headers.insertAll l).InLowercase := by
  intro name text hname
  rcases mem_or_get?_of_insertAll hname with hmem | hold
  · exact hl (name, text) hmem
  · exact h name text hold

namespace Response

variable {response : Response} {name text : String}

def Says (response : Response) (name text : String) : Prop :=
  ∃ sent, response.headers.get? sent = some text ∧ Text.asciiLower sent = Text.asciiLower name

theorem header?_eq_some_iff (h : response.headers.InLowercase) :
    response.header? name = some text ↔ response.Says name text := by
  constructor
  · exact fun ht => ⟨_, ht, Text.asciiLower_asciiLower name⟩
  · rintro ⟨sent, hsent, hname⟩
    rw [header?, ← hname, h sent text hsent, hsent]

theorem inLowercase_withHeaders (h : response.headers.InLowercase) (headers : List (String × String)) :
    (response.withHeaders headers).headers.InLowercase := by
  refine Dict.inLowercase_insertAll h fun e he => ?_
  obtain ⟨header, -, rfl⟩ := List.mem_map.mp he
  exact Text.asciiLower_asciiLower header.1

end Response

namespace Http.Gateway

variable {g : Gateway} {url : Url} {q : Request} {m : Message} {w : Wire} {response : Response}

theorem inLowercase_readable (headers : Headers) : (readable headers).InLowercase := by
  refine Dict.inLowercase_insertAll (by simp [Dict.InLowercase]) fun e he => ?_
  obtain ⟨header, -, rfl⟩ := List.mem_map.mp he
  exact Text.asciiLower_asciiLower header.1

theorem inLowercase_accept {r : Reply} (h : accept q r = .ok response) :
    response.headers.InLowercase := by
  rw [accept] at h
  split at h
  · rw [← Except.ok.inj h]
    exact inLowercase_readable r.headers
  · split at h
    · rw [← Except.ok.inj h]
      exact inLowercase_readable r.headers
    · simp at h

theorem inLowercase_attempt {left : Nat} (h : (g.attempt url q m left w).result = .ok response) :
    response.headers.InLowercase := by
  induction left generalizing w with
  | zero =>
      unfold attempt at h
      split at h
      · simp at h
      · split at h
        · exact inLowercase_accept h
        · simp at h
  | succ left ih =>
      unfold attempt at h
      split at h
      · simp at h
      · split at h
        · exact inLowercase_accept h
        · simp only at h
          split at h
          · exact ih h
          · simp at h

theorem inLowercase_answer (h : (g.session.answer q w).result = .ok response) :
    response.headers.InLowercase := by
  change (g.answer q w).result = .ok response at h
  unfold answer at h
  split at h
  · simp at h
  · split at h
    · simp at h
    · split at h
      · exact inLowercase_attempt h
      · simp at h

end Http.Gateway

end ControlPlane
