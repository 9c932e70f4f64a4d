import ControlPlane.Patch
import ControlPlane.Proofs.Text.Split

namespace ControlPlane.Pointer

theorem unescape_cons {c : Char} (h : c ≠ '~') (rest : List Char) :
    unescape (c :: rest) = (unescape rest).map (c :: ·) := by
  rw [unescape]
  · rw [if_neg h]
  · intro _ hc
    exact absurd hc h
  · intro _ hc
    exact absurd hc h

theorem unescape_of_none {cs : List Char} (h : ∀ c ∈ cs, c ≠ '~') : unescape cs = some cs := by
  induction cs with
  | nil => rfl
  | cons c rest ih =>
      rw [unescape_cons (h c (List.mem_cons_self ..)),
        ih fun d hd => h d (List.mem_cons_of_mem _ hd)]
      rfl

theorem unescape_length : ∀ {cs ds : List Char}, unescape cs = some ds →
    ds.length ≤ cs.length ∧ ('~' ∈ cs → ds.length < cs.length) := by
  intro cs
  induction cs using unescape.induct with
  | case1 =>
      intro ds h
      simp only [unescape, Option.some.injEq] at h
      simp [← h]
  | case2 rest ih =>
      intro ds h
      simp only [unescape, Option.map_eq_some_iff] at h
      obtain ⟨ds', hd, rfl⟩ := h
      have := (ih hd).1
      simp only [List.length_cons]
      omega
  | case3 rest ih =>
      intro ds h
      simp only [unescape, Option.map_eq_some_iff] at h
      obtain ⟨ds', hd, rfl⟩ := h
      have := (ih hd).1
      simp only [List.length_cons]
      omega
  | case4 rest h0 h1 =>
      intro ds h
      rw [unescape] at h
      · simp at h
      · exact h0
      · exact h1
  | case5 c rest h0 h1 hc ih =>
      intro ds h
      rw [unescape_cons hc, Option.map_eq_some_iff] at h
      obtain ⟨ds', hd, rfl⟩ := h
      obtain ⟨hle, hlt⟩ := ih hd
      rw [List.length_cons, List.length_cons]
      refine ⟨Nat.succ_le_succ hle, fun hm => Nat.succ_lt_succ (hlt ?_)⟩
      exact (List.mem_cons.mp hm).resolve_left (Ne.symm hc)

def Plain (key : String) : Prop := ∀ c ∈ key.toList, c ≠ '/' ∧ c ≠ '~'

theorem keys?_slash (key : String) :
    keys? ("/" ++ key) =
      (Text.split (· == '/') key.toList).mapM fun part => (unescape part).map String.ofList := by
  have hpath : ("/" ++ key).toList = '/' :: key.toList := by simp
  rw [keys?, hpath, Text.split_cons_separator (by rfl)]

theorem keys?_of_plain {key : String} (h : Plain key) : keys? ("/" ++ key) = some [key] := by
  rw [keys?_slash, Text.split_of_none fun c hc => by simpa using (h c hc).1]
  simp [unescape_of_none fun c hc => (h c hc).2]

theorem keys?_slash_first {key first : String} {rest : List String}
    (h : keys? ("/" ++ key) = some (first :: rest)) :
    ∃ part others, Text.split (· == '/') key.toList = part :: others ∧
      unescape part = some first.toList := by
  rw [keys?_slash] at h
  cases hs : Text.split (· == '/') key.toList with
  | nil => exact absurd hs (Text.split_ne_nil _ _)
  | cons part others =>
      rw [hs, List.mapM_cons] at h
      simp only [Option.bind_eq_bind, Option.bind_eq_some_iff, Option.map_eq_some_iff] at h
      obtain ⟨_, ⟨cs, hu, hfirst⟩, keys, -, hkeys⟩ := h
      simp only [Option.pure_def, Option.some.injEq, List.cons.injEq] at hkeys
      refine ⟨part, others, rfl, ?_⟩
      rw [hu, ← hkeys.1, ← hfirst, String.toList_ofList]

theorem keys?_slash_ne_nil (key : String) : keys? ("/" ++ key) ≠ some [] := by
  rw [keys?_slash]
  cases hs : Text.split (· == '/') key.toList with
  | nil => exact absurd hs (Text.split_ne_nil _ _)
  | cons part others =>
      rw [List.mapM_cons]
      intro h
      simp only [Option.bind_eq_bind, Option.bind_eq_some_iff] at h
      obtain ⟨_, -, _, -, hcons⟩ := h
      simp at hcons

theorem keys?_first_length {key first : String} {rest : List String}
    (h : keys? ("/" ++ key) = some (first :: rest)) (hk : ¬Plain key) :
    first.toList.length < key.toList.length := by
  obtain ⟨part, others, hs, hu⟩ := keys?_slash_first h
  obtain ⟨hle, hlt⟩ := Text.split_first_length hs
  obtain ⟨hle', hlt'⟩ := unescape_length hu
  by_cases hslash : '/' ∈ key.toList
  · exact Nat.lt_of_le_of_lt hle' (hlt ⟨'/', hslash, by simp⟩)
  · have hnone : ∀ c ∈ key.toList, (c == '/') = false := by
      intro c hc
      simp only [beq_eq_false_iff_ne, ne_eq]
      rintro rfl
      exact hslash hc
    -- without a slash the one part is the whole key, so a tilde is what it has
    rw [Text.split_of_none hnone, List.cons.injEq] at hs
    have htilde : '~' ∈ key.toList := by
      apply Classical.byContradiction
      intro hno
      refine hk fun c hc => ⟨?_, ?_⟩
      · rintro rfl
        exact hslash hc
      · rintro rfl
        exact hno hc
    rw [← hs.1] at hlt'
    exact hlt' htilde

end ControlPlane.Pointer
