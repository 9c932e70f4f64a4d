import ControlPlane.Basic
import Mathlib.Data.List.TakeDrop
import Mathlib.Data.List.TakeWhile

namespace ControlPlane.Text

theorem span_append {α : Type} {p : α → Bool} {a : α} (ha : p a = false) (l rest : List α) :
    (l ++ a :: rest).span p = ((l.span p).1, (l.span p).2 ++ a :: rest) := by
  simp only [List.span_eq_takeWhile_dropWhile]
  induction l with
  | nil => simp [ha]
  | cons b l ih =>
      obtain ⟨htake, hdrop⟩ := Prod.mk.inj ih
      cases hb : p b with
      | true => simp [hb, htake, hdrop]
      | false => simp [hb]

theorem dropWhile_append {α : Type} {p : α → Bool} {a : α} (ha : p a = false) (l rest : List α) :
    (l ++ a :: rest).dropWhile p = l.dropWhile p ++ a :: rest := by
  have h := congrArg Prod.snd (span_append ha l rest)
  rwa [List.span_eq_takeWhile_dropWhile, List.span_eq_takeWhile_dropWhile] at h

theorem cut_of_notMem {mark : Char} {cs : List Char} (h : mark ∉ cs) : cut mark cs = (cs, none) := by
  have hall : ∀ c ∈ cs, (c != mark) = true := fun c hc => bne_iff_ne.mpr fun he => h (he ▸ hc)
  rw [cut, List.span_eq_takeWhile_dropWhile, List.takeWhile_eq_self_iff.mpr hall,
    List.dropWhile_eq_nil_iff.mpr hall]

theorem notMem_of_cut {mark : Char} {cs : List Char} (h : (cut mark cs).2 = none) : mark ∉ cs := by
  intro hmem
  obtain ⟨before, after, rfl⟩ := List.append_of_mem hmem
  rw [cut, span_append (by simp)] at h
  generalize (before.span (· != mark)).2 = rest at h
  cases rest <;> simp at h

variable {separator : Char → Bool}

theorem split_cons_separator {c : Char} (h : separator c = true) (cs : List Char) :
    split separator (c :: cs) = [] :: split separator cs := by
  rw [split]
  cases hs : split separator cs with
  | nil => exact absurd hs (split_ne_nil separator cs)
  | cons first others => simp [h]

theorem split_cons_other {c : Char} (h : separator c = false) {cs first : List Char}
    {others : List (List Char)} (hs : split separator cs = first :: others) :
    split separator (c :: cs) = (c :: first) :: others := by
  rw [split, hs]
  simp [h]

theorem split_of_none {cs : List Char} (h : ∀ c ∈ cs, separator c = false) :
    split separator cs = [cs] := by
  induction cs with
  | nil => rfl
  | cons c rest ih =>
      exact split_cons_other (h c (List.mem_cons_self ..))
        (ih fun d hd => h d (List.mem_cons_of_mem _ hd))

theorem split_first_length {cs first : List Char} {others : List (List Char)}
    (h : split separator cs = first :: others) :
    first.length ≤ cs.length ∧ ((∃ c ∈ cs, separator c = true) → first.length < cs.length) := by
  induction cs generalizing first others with
  | nil =>
      simp only [split, List.cons.injEq] at h
      simp [← h.1]
  | cons c rest ih =>
      cases hs : separator c with
      | true =>
          rw [split_cons_separator hs, List.cons.injEq] at h
          simp [← h.1]
      | false =>
          cases hr : split separator rest with
          | nil => exact absurd hr (split_ne_nil separator rest)
          | cons first' others' =>
              obtain ⟨hle, hlt⟩ := ih hr
              rw [split_cons_other hs hr, List.cons.injEq] at h
              rw [← h.1, List.length_cons, List.length_cons]
              refine ⟨Nat.succ_le_succ hle, ?_⟩
              rintro ⟨d, hd, hsep⟩
              rcases List.mem_cons.mp hd with rfl | hd
              · rw [hs] at hsep
                exact absurd hsep (by simp)
              · exact Nat.succ_lt_succ (hlt ⟨d, hd, hsep⟩)

end ControlPlane.Text
