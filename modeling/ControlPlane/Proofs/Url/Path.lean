import ControlPlane.Proofs.Text.Percent
import ControlPlane.Proofs.Text.Split
import ControlPlane.Url.Path
import Mathlib.Data.List.DropRight

namespace ControlPlane.Url

theorem eq_nil_of_plainDots {cs : List Char} (h : plainDots cs = []) : cs = [] := by
  fun_cases plainDots cs with
  | case1 => simp [plainDots] at h
  | case2 => simp [plainDots] at h
  | case3 c rest hlow hhigh =>
      rw [plainDots] at h
      · exact absurd h (List.cons_ne_nil _ _)
      · exact hlow
      · exact hhigh
  | case4 => rfl

theorem unescape_of_plainDots {cs rest : List Char} (h : plainDots cs = '.' :: rest) :
    ∃ cs', plainDots cs' = rest ∧ Text.unescape cs = 0x2E :: Text.unescape cs' := by
  fun_cases plainDots cs with
  | case1 cs' =>
      rw [plainDots, List.cons.injEq] at h
      exact ⟨cs', h.2, rfl⟩
  | case2 cs' =>
      rw [plainDots, List.cons.injEq] at h
      exact ⟨cs', h.2, rfl⟩
  | case3 c cs' hlow hhigh =>
      rw [plainDots, List.cons.injEq] at h
      · obtain ⟨rfl, h⟩ := h
        exact ⟨cs', h, Text.unescape_cons (by decide) cs'⟩
      · exact hlow
      · exact hhigh
  | case4 => simp [plainDots] at h

theorem eq_of_plainDots_one {id : String}
    (h : plainDots (Text.percentEncode id).toList = ['.']) : id = "." := by
  obtain ⟨cs, hcs, hu⟩ := unescape_of_plainDots h
  apply Text.eq_of_unescape
  rw [hu, eq_nil_of_plainDots hcs]
  rfl

theorem eq_of_plainDots_two {id : String}
    (h : plainDots (Text.percentEncode id).toList = ['.', '.']) : id = ".." := by
  obtain ⟨cs, hcs, hu⟩ := unescape_of_plainDots h
  obtain ⟨cs', hcs', hu'⟩ := unescape_of_plainDots hcs
  apply Text.eq_of_unescape
  rw [hu, hu', eq_nil_of_plainDots hcs']
  rfl

theorem ofSegment_percentEncode {id : String} (hone : id ≠ ".") (htwo : id ≠ "..") :
    Step.ofSegment (Text.percentEncode id).toList = .down (Text.percentEncode id).toList := by
  rw [Step.ofSegment]
  split
  · rename_i h
    exact absurd (eq_of_plainDots_one h) hone
  · rename_i h
    exact absurd (eq_of_plainDots_two h) htwo
  · rfl

namespace Step

def follow (reached : List (List Char)) : Step → List (List Char)
  | .stay => reached
  | .up => reached.drop 1
  | .down segment => segment :: reached

def arrive (reached : List (List Char)) : Step → List (List Char)
  | .stay => [] :: reached
  | .up => [] :: reached.drop 1
  | .down segment => segment :: reached

end Step

def descend (reached : List (List Char)) (pieces : List (List Char)) : List (List Char) :=
  pieces.foldl (fun reached piece => (Step.ofSegment piece).follow reached) reached

theorem walk_last (reached : List (List Char)) (last : List Char) :
    walk reached [last] = ((Step.ofSegment last).arrive reached).reverse := by
  rw [walk]
  cases Step.ofSegment last <;> rfl

theorem walk_cons (reached : List (List Char)) (first second : List Char) (rest : List (List Char)) :
    walk reached (first :: second :: rest) =
      walk ((Step.ofSegment first).follow reached) (second :: rest) := by
  rw [walk]
  · cases Step.ofSegment first <;> rfl
  · simp

theorem walk_concat (pieces : List (List Char)) (last : List Char) :
    ∀ reached, walk reached (pieces ++ [last]) =
      ((Step.ofSegment last).arrive (descend reached pieces)).reverse := by
  induction pieces with
  | nil => exact fun reached => walk_last reached last
  | cons first rest ih =>
      intro reached
      -- a piece that another follows is not the last
      obtain ⟨second, others, hrest⟩ : ∃ second others, rest ++ [last] = second :: others :=
        List.exists_cons_of_ne_nil (by simp)
      rw [List.cons_append, hrest, walk_cons, ← hrest, ih]
      rfl

def inner (path : List Char) : List Char := if path.head?.any isSlash then path.drop 1 else path

def pieces (path : List Char) : List (List Char) :=
  if path = [] then [] else Text.split isSlash (inner path)

def place (path : List Char) : List String :=
  (descend [] (pieces path)).reverse.map (encode staysInPath)

def IsSegment (id : String) : Prop := id ≠ "" ∧ id ≠ "." ∧ id ≠ ".."

instance (id : String) : Decidable (IsSegment id) :=
  inferInstanceAs (Decidable (id ≠ "" ∧ id ≠ "." ∧ id ≠ ".."))

def below (place : List String) (id : String) : List String :=
  if id = "" ∨ id = "." then place ++ [""]
  else if id = ".." then place.dropLast ++ [""]
  else place ++ [Text.percentEncode id]

theorem below_of_isSegment {id : String} (h : IsSegment id) (place : List String) :
    below place id = place ++ [Text.percentEncode id] := by
  rw [below, if_neg (not_or.mpr ⟨h.1, h.2.1⟩), if_neg h.2.2]

theorem below_of_not_isSegment {id : String} (h : ¬IsSegment id) (place : List String) :
    ∃ front, below place id = front ++ [""] := by
  rw [below]
  split
  · exact ⟨place, rfl⟩
  · rename_i hstay
    obtain ⟨hempty, hone⟩ := not_or.mp hstay
    split
    · exact ⟨place.dropLast, rfl⟩
    · rename_i hup
      exact absurd ⟨hempty, hone, hup⟩ h

theorem split_append {c : Char} (hc : isSlash c = true) (path rest : List Char) :
    Text.split isSlash (path ++ c :: rest) = Text.split isSlash path ++ Text.split isSlash rest := by
  induction path with
  | nil => exact Text.split_cons_separator hc rest
  | cons d path ih =>
      cases hd : isSlash d with
      | true =>
          rw [List.cons_append, Text.split_cons_separator hd, Text.split_cons_separator hd, ih]
          rfl
      | false =>
          obtain ⟨first, others, hs⟩ : ∃ first others, Text.split isSlash path = first :: others :=
            List.exists_cons_of_ne_nil (Text.split_ne_nil isSlash path)
          rw [hs, List.cons_append] at ih
          rw [List.cons_append, Text.split_cons_other hd ih, Text.split_cons_other hd hs]
          rfl

theorem segments_eq (path : List Char) :
    segments path = (walk [] (Text.split isSlash (inner path))).map (encode staysInPath) := rfl

theorem split_inner_append (path rest : List Char) :
    Text.split isSlash (inner (path ++ '/' :: rest)) = pieces path ++ Text.split isSlash rest := by
  cases path with
  | nil => rfl
  | cons c path =>
      rw [pieces, if_neg (List.cons_ne_nil _ _)]
      cases hc : isSlash c with
      | true =>
          simp only [inner, List.cons_append, List.head?_cons, Option.any_some, hc, if_true,
            List.drop_succ_cons, List.drop_zero]
          exact split_append rfl path rest
      | false =>
          simp only [inner, List.cons_append, List.head?_cons, Option.any_some, hc,
            Bool.false_eq_true, if_false]
          exact split_append rfl (c :: path) rest

theorem split_percentEncode (id : String) :
    Text.split isSlash (Text.percentEncode id).toList = [(Text.percentEncode id).toList] :=
  Text.split_of_none ((Text.isEscaped_percentEncode id).forall (P := fun c => isSlash c = false)
    (by decide) (by decide))

theorem encode_percentEncode (id : String) :
    encode staysInPath (Text.percentEncode id).toList = Text.percentEncode id := by
  have hkept : Text.percentEncodeWith staysInPath (Text.percentEncode id).toList =
      (Text.percentEncode id).toList :=
    Text.percentEncodeWith_of_kept ((Text.isEscaped_percentEncode id).forall
      (P := fun c => staysInPath c = true) (by decide) (by decide))
  rw [encode, hkept, String.ofList_toList]

theorem segments_below (path : List Char) (id : String) :
    segments (path ++ '/' :: (Text.percentEncode id).toList) = below (place path) id := by
  rw [segments_eq, split_inner_append, split_percentEncode, walk_concat, below, place]
  by_cases hstay : id = "" ∨ id = "."
  · rw [if_pos hstay]
    rcases hstay with rfl | rfl
    · change (([] :: _).reverse).map _ = _
      rw [List.reverse_cons, List.map_append]
      rfl
    · change (([] :: _).reverse).map _ = _
      rw [List.reverse_cons, List.map_append]
      rfl
  · rw [if_neg hstay]
    by_cases hup : id = ".."
    · rw [if_pos hup, hup]
      change (([] :: List.drop 1 _).reverse).map _ = _
      rw [List.reverse_cons, List.map_append, List.drop_one, ← List.dropLast_reverse,
        List.map_dropLast]
      rfl
    · obtain ⟨-, hone⟩ := not_or.mp hstay
      rw [if_neg hup, ofSegment_percentEncode hone hup, Step.arrive, List.reverse_cons,
        List.map_append, List.map_singleton, encode_percentEncode]

def trimmed (path : List String) : List String := path.rdropWhile (· == "")

theorem trimmed_concat_empty (path : List String) : trimmed (path ++ [""]) = trimmed path :=
  List.rdropWhile_concat_pos _ _ _ rfl

theorem trimmed_of_none {path : List String} (h : "" ∉ path) : trimmed path = path := by
  rw [trimmed, List.rdropWhile_eq_self_iff]
  intro hne hlast
  exact h (beq_iff_eq.mp hlast ▸ List.getLast_mem hne)

theorem trimmed_arrive (step : Step) (reached : List (List Char)) :
    trimmed ((step.arrive reached).reverse.map (encode staysInPath)) =
      trimmed ((step.follow reached).reverse.map (encode staysInPath)) := by
  have hslash (reached : List (List Char)) :
      trimmed (([] :: reached).reverse.map (encode staysInPath)) =
        trimmed (reached.reverse.map (encode staysInPath)) := by
    rw [List.reverse_cons, List.map_append]
    exact trimmed_concat_empty _
  cases step with
  | stay => exact hslash reached
  | up => exact hslash (reached.drop 1)
  | down segment => rfl

theorem descend_concat (reached pieces : List (List Char)) (last : List Char) :
    descend reached (pieces ++ [last]) = (Step.ofSegment last).follow (descend reached pieces) :=
  List.foldl_concat ..

theorem trimmed_walk {parts : List (List Char)} (h : parts ≠ []) :
    trimmed ((walk [] parts).map (encode staysInPath)) =
      trimmed ((descend [] parts).reverse.map (encode staysInPath)) := by
  rw [← List.dropLast_concat_getLast h, walk_concat, descend_concat]
  exact trimmed_arrive _ _

theorem trimmed_segments (path : List Char) : trimmed (segments path) = trimmed (place path) := by
  rw [segments_eq, trimmed_walk (Text.split_ne_nil isSlash _)]
  cases path with
  | nil => rfl
  | cons c path => rfl

theorem place_slash (path : List Char) : trimmed (place (path ++ ['/'])) = trimmed (place path) := by
  have hpieces : pieces (path ++ ['/']) = pieces path ++ [[]] := by
    rw [pieces, if_neg (by simp)]
    exact split_inner_append path []
  rw [place, hpieces, descend_concat]
  exact trimmed_arrive .stay _

theorem place_slashes (path : List Char) (n : Nat) :
    trimmed (place (path ++ List.replicate n '/')) = trimmed (place path) := by
  induction n with
  | zero => rw [List.replicate_zero, List.append_nil]
  | succ n ih => rw [List.replicate_succ', ← List.append_assoc, place_slash, ih]

theorem eq_of_ofSegment_down {piece segment : List Char}
    (h : Step.ofSegment piece = .down segment) : segment = piece := by
  rw [Step.ofSegment] at h
  split at h
  · exact absurd h (by simp)
  · exact absurd h (by simp)
  · exact (Step.down.inj h).symm

theorem nil_notMem_follow {reached : List (List Char)} {piece : List Char} (hr : [] ∉ reached)
    (hp : piece ≠ []) : [] ∉ (Step.ofSegment piece).follow reached := by
  cases hs : Step.ofSegment piece with
  | stay => exact hr
  | up => exact fun h => hr (List.mem_of_mem_drop h)
  | down segment =>
      rw [eq_of_ofSegment_down hs]
      exact fun h => (List.mem_cons.mp h).elim (fun he => hp he.symm) hr

theorem nil_notMem_descend {pieces : List (List Char)} (hp : [] ∉ pieces) :
    ∀ {reached}, [] ∉ reached → [] ∉ descend reached pieces := by
  induction pieces with
  | nil => exact fun hr => hr
  | cons first rest ih =>
      intro reached hr
      rw [List.mem_cons, not_or] at hp
      obtain ⟨hfirst, hrest⟩ := hp
      exact ih hrest (nil_notMem_follow hr fun h => hfirst h.symm)

theorem encode_eq_empty {stays : Char → Bool} {cs : List Char} (h : encode stays cs = "") :
    cs = [] := by
  have hnil : Text.percentEncodeWith stays cs = [] := String.ofList_eq_empty_iff.mp h
  cases cs with
  | nil => rfl
  | cons c rest =>
      rw [Text.percentEncodeWith, List.flatMap_cons, List.append_eq_nil_iff] at hnil
      have hc := hnil.1
      split at hc
      · exact absurd hc (List.cons_ne_nil _ _)
      · obtain ⟨b, bs, hb⟩ := List.exists_cons_of_ne_nil (String.utf8EncodeChar_ne_nil (c := c))
        rw [Text.escapeChar, hb] at hc
        exact absurd hc (List.cons_ne_nil _ _)

def joined (parts : List (List Char)) : List Char := parts.flatMap ('/' :: ·)

theorem pieces_joined {parts : List (List Char)} (h : ∀ part ∈ parts, ∀ c ∈ part, isSlash c = false) :
    pieces (joined parts) = parts := by
  induction parts using List.reverseRecOn with
  | nil => rfl
  | append_singleton parts last ih =>
      have hparts := ih fun part hp => h part (List.mem_append_left _ hp)
      have hlast := h last (List.mem_append_right _ (List.mem_singleton_self _))
      have hjoined : joined (parts ++ [last]) = joined parts ++ '/' :: last := by
        simp [joined]
      rw [hjoined, pieces, if_neg (by simp), split_inner_append, hparts, Text.split_of_none hlast]

theorem trimmed_place_joined {parts : List (List Char)} (hne : [] ∉ parts)
    (h : ∀ part ∈ parts, ∀ c ∈ part, isSlash c = false) :
    trimmed (place (joined parts)) = place (joined parts) := by
  apply trimmed_of_none
  rw [place, pieces_joined h]
  intro hmem
  obtain ⟨segment, hs, he⟩ := List.mem_map.mp hmem
  rw [encode_eq_empty he, List.mem_reverse] at hs
  exact nil_notMem_descend hne (List.not_mem_nil) hs

end ControlPlane.Url
