import ControlPlane.Proofs.Text.Split
import Mathlib.Data.List.DropRight

namespace ControlPlane.Text

variable {c : Char} {core cs : List Char}

theorem dropEnd_concat {d : Char} (h : d ≠ c) (cs : List Char) :
    dropEnd c (cs ++ [d]) = cs ++ [d] :=
  List.rdropWhile_concat_neg _ _ _ (by simpa using h)

theorem dropEnd_concat_self (cs : List Char) : dropEnd c (cs ++ [c]) = dropEnd c cs :=
  List.rdropWhile_concat_pos _ _ _ (by simp)

theorem dropEnd_append_replicate (cs : List Char) (n : Nat) :
    dropEnd c (cs ++ List.replicate n c) = dropEnd c cs := by
  induction n with
  | zero => rw [List.replicate_zero, List.append_nil]
  | succ n ih =>
      rw [List.replicate_succ', ← List.append_assoc, dropEnd_concat_self, ih]

theorem dropEnd_append_concat {d : Char} (h : d ≠ c) (cs : List Char) (n : Nat) :
    dropEnd c (cs ++ [d] ++ List.replicate n c) = cs ++ [d] := by
  rw [dropEnd_append_replicate, dropEnd_concat h]

theorem ends_cases (c : Char) (cs : List Char) :
    (∃ n, cs = List.replicate n c) ∨
      ∃ start last n, last ≠ c ∧ cs = start ++ [last] ++ List.replicate n c := by
  induction cs using List.reverseRecOn with
  | nil => exact .inl ⟨0, rfl⟩
  | append_singleton cs d ih =>
      by_cases hd : d = c
      · subst hd
        rcases ih with ⟨n, rfl⟩ | ⟨start, last, n, hlast, rfl⟩
        · exact .inl ⟨n + 1, List.replicate_succ'.symm⟩
        · exact .inr ⟨start, last, n + 1, hlast, by rw [List.replicate_succ', List.append_assoc]⟩
      · exact .inr ⟨cs, d, 0, hd, by rw [List.replicate_zero, List.append_nil]⟩

theorem dropEnd_replicate (n : Nat) : dropEnd c (List.replicate n c) = [] :=
  dropEnd_append_replicate [] n

theorem dropEnd_dropEnd (cs : List Char) : dropEnd c (dropEnd c cs) = dropEnd c cs :=
  List.rdropWhile_idempotent _ _

theorem eq_dropEnd_append (c : Char) (cs : List Char) :
    ∃ n, cs = dropEnd c cs ++ List.replicate n c := by
  rcases ends_cases c cs with ⟨n, rfl⟩ | ⟨start, last, n, hlast, rfl⟩
  · exact ⟨n, by rw [dropEnd_replicate, List.nil_append]⟩
  · exact ⟨n, by rw [dropEnd_append_concat hlast]⟩

theorem getLast?_dropEnd (c : Char) (cs : List Char) : (dropEnd c cs).getLast? ≠ some c := by
  rcases ends_cases c cs with ⟨n, rfl⟩ | ⟨start, last, n, hlast, rfl⟩
  · simp [dropEnd_replicate]
  · rw [dropEnd_append_concat hlast, List.getLast?_concat]
    simpa using hlast

theorem dropStart_append {d : Char} (h : d ≠ c) (cs rest : List Char) :
    dropStart c (cs ++ d :: rest) = dropStart c cs ++ d :: rest :=
  dropWhile_append (by simpa using h) cs rest

theorem dropStart_replicate (n : Nat) (rest : List Char) :
    dropStart c (List.replicate n c ++ rest) = dropStart c rest :=
  List.dropWhile_append_of_pos (by simp)

theorem dropStart_of_notMem {cs : List Char} (h : c ∉ cs) : dropStart c cs = cs := by
  cases cs with
  | nil => rfl
  | cons d cs =>
      rw [List.mem_cons, not_or] at h
      exact List.dropWhile_cons_of_neg (by simpa using Ne.symm h.1)

def Padded (core cs : List Char) : Prop :=
  ∃ before after, (∀ c ∈ before, isBlank c = true) ∧ (∀ c ∈ after, isBlank c = true) ∧
    cs = before ++ core ++ after

theorem dropWhile_unblank (h : ∀ c ∈ core, isBlank c = false) : core.dropWhile isBlank = core := by
  cases core with
  | nil => rfl
  | cons d rest => exact List.dropWhile_cons_of_neg (by simp [h d (List.mem_cons_self ..)])

theorem padded_trim (cs : List Char) : Padded (trim cs) cs := by
  refine ⟨cs.takeWhile isBlank, (trimStart cs).rtakeWhile isBlank, fun _ => List.mem_takeWhile_imp,
    fun _ => List.mem_rtakeWhile_imp, ?_⟩
  have hend : trim cs ++ (trimStart cs).rtakeWhile isBlank = trimStart cs :=
    List.rdropWhile_append_rtakeWhile
  rw [List.append_assoc, hend]
  exact List.takeWhile_append_dropWhile.symm

theorem trim_of_padded (hcore : ∀ c ∈ core, isBlank c = false) (h : Padded core cs) :
    trim cs = core := by
  obtain ⟨before, after, hbefore, hafter, rfl⟩ := h
  have hstart : trimStart (before ++ core ++ after) = (core ++ after).dropWhile isBlank := by
    rw [List.append_assoc]
    exact List.dropWhile_append_of_pos hbefore
  rw [trim, hstart]
  cases core with
  | nil => rw [List.nil_append, List.dropWhile_eq_nil_iff.mpr hafter, trimEnd]; rfl
  | cons c rest =>
      have hcons : (c :: rest ++ after).dropWhile isBlank = c :: rest ++ after :=
        List.dropWhile_cons_of_neg (by simp [hcore c (List.mem_cons_self ..)])
      have hback : ∀ d ∈ after.reverse, isBlank d = true := fun d hd => hafter d (List.mem_reverse.mp hd)
      rw [hcons, trimEnd, List.reverse_append, List.dropWhile_append_of_pos hback,
        dropWhile_unblank fun d hd => hcore d (List.mem_reverse.mp hd), List.reverse_reverse]

theorem trim_of_unblank (h : ∀ c ∈ cs, isBlank c = false) : trim cs = cs :=
  trim_of_padded h ⟨[], [], by simp, by simp, by simp⟩

end ControlPlane.Text
