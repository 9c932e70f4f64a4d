import ControlPlane.Proofs.Text.Trim
import ControlPlane.Proofs.Url.Site

namespace ControlPlane.Url

def isPlain (c : Char) : Bool := !isEdge c && !endsAuthority c

structure Plain where
  scheme : Scheme
  authority : List Char
  parts : List (List Char)
  slashes : Nat
  authority_ne : authority ≠ []
  authority_plain : ∀ c ∈ authority, isPlain c = true
  parts_ne : [] ∉ parts
  parts_plain : ∀ part ∈ parts, ∀ c ∈ part, isPlain c = true

theorem isPlain_iff {c : Char} : isPlain c = true ↔ isEdge c = false ∧ endsAuthority c = false := by
  simp [isPlain]

theorem isSlash_of_isPlain {c : Char} (h : isPlain c = true) : isSlash c = false := by
  have hends := (isPlain_iff.mp h).2
  simp only [endsAuthority, Bool.or_eq_false_iff] at hends
  exact hends.1.1

theorem tidy_of_plain {cs : List Char} (h : ∀ c ∈ cs, isEdge c = false) :
    tidy (String.ofList cs) = cs := by
  have hstart : cs.dropWhile isEdge = cs := by
    rw [List.dropWhile_eq_self_iff]
    intro hlen
    simp [h _ (List.getElem_mem hlen)]
  have hlast : cs.rdropWhile isEdge = cs := by
    rw [List.rdropWhile_eq_self_iff]
    intro hne
    simp [h _ (List.getLast_mem hne)]
  have hinside : ∀ c ∈ cs, staysInside c = true := by
    intro c hc
    rw [staysInside, Bool.not_eq_true', Bool.eq_false_iff]
    intro hmem
    have hedges : "\t\n\r".toList.all isEdge = true := by decide
    exact absurd (List.all_eq_true.mp hedges c (List.contains_iff_mem.mp hmem)) (by simp [h c hc])
  rw [tidy_eq, String.toList_ofList, hstart, hlast, List.filter_eq_self.mpr hinside]

theorem cutScheme?_name (scheme : Scheme) (rest : List Char) :
    cutScheme? (scheme.name.toList ++ ':' :: rest) = some (scheme.name, rest) := by
  rw [cutScheme?, Text.span_append (by decide)]
  cases scheme <;> rfl

theorem parts_of_plain {authority tail : List Char} (hne : authority ≠ [])
    (h : ∀ c ∈ authority, isPlain c = true) (htail : tail = [] ∨ ∃ rest, tail = '/' :: rest) :
    parts ("//".toList ++ authority ++ tail) = (authority, tail) := by
  have hends : ∀ c ∈ authority, (!endsAuthority c) = true := fun c hc => by
    rw [(isPlain_iff.mp (h c hc)).2]
    rfl
  have hdrop : ("//".toList ++ authority ++ tail).dropWhile isSlash = authority ++ tail := by
    obtain ⟨first, others, rfl⟩ := List.exists_cons_of_ne_nil hne
    have hfirst : isSlash first = false := isSlash_of_isPlain (h first (List.mem_cons_self ..))
    change (first :: (others ++ tail)).dropWhile isSlash = first :: (others ++ tail)
    exact List.dropWhile_cons_of_neg (by simp [hfirst])
  rw [parts, hdrop]
  rcases htail with rfl | ⟨rest, rfl⟩
  · rw [List.append_nil, List.span_eq_takeWhile_dropWhile, List.takeWhile_eq_self_iff.mpr hends,
      List.dropWhile_eq_nil_iff.mpr hends]
  · rw [Text.span_append (by decide), List.span_eq_takeWhile_dropWhile,
      List.takeWhile_eq_self_iff.mpr hends, List.dropWhile_eq_nil_iff.mpr hends]
    rfl

theorem ofName?_name (scheme : Scheme) : Scheme.ofName? scheme.name = some scheme := by
  cases scheme <;> rfl

theorem isEdge_name (scheme : Scheme) :
    ∀ c ∈ scheme.name.toList ++ "://".toList, isEdge c = false := by
  have hall : (scheme.name.toList ++ "://".toList).all (!isEdge ·) = true := by
    cases scheme <;> decide
  intro c hc
  exact Bool.not_eq_true' _ ▸ List.all_eq_true.mp hall c hc

theorem read?_of_plain {scheme : Scheme} {authority tail : List Char} (hne : authority ≠ [])
    (h : ∀ c ∈ authority, isPlain c = true) (htail : tail = [] ∨ ∃ rest, tail = '/' :: rest)
    (hedge : ∀ c ∈ tail, isEdge c = false) :
    read? (tidy (String.ofList (scheme.name.toList ++ "://".toList ++ authority ++ tail))) =
      (site? scheme authority).map fun site => (site, tail) := by
  have hall : ∀ c ∈ scheme.name.toList ++ "://".toList ++ authority ++ tail, isEdge c = false := by
    intro c hc
    rcases List.mem_append.mp hc with hc | hc
    · rcases List.mem_append.mp hc with hc | hc
      · exact isEdge_name scheme c hc
      · exact (isPlain_iff.mp (h c hc)).1
    · exact hedge c hc
  have hcolon : scheme.name.toList ++ "://".toList ++ authority ++ tail =
      scheme.name.toList ++ ':' :: ("//".toList ++ authority ++ tail) := by
    simp
  rw [tidy_of_plain hall, hcolon, read?, cutScheme?_name, Option.bind_some, ofName?_name,
    Option.bind_some, parts_of_plain hne h htail]

theorem exists_last_of_plain {cs : List Char} (hne : cs ≠ []) (h : ∀ c ∈ cs, isPlain c = true) :
    ∃ init last, last ≠ '/' ∧ cs = init ++ [last] := by
  refine ⟨cs.dropLast, cs.getLast hne, fun he => ?_, (List.dropLast_concat_getLast hne).symm⟩
  have hlast := h _ (List.getLast_mem hne)
  rw [he] at hlast
  exact absurd hlast (by decide)

namespace Plain

variable (p : Plain)

def tail (n : Nat) : List Char := joined p.parts ++ List.replicate n '/'

def textWith (n : Nat) : String :=
  String.ofList (p.scheme.name.toList ++ "://".toList ++ p.authority ++ p.tail n)

def text : String := p.textWith p.slashes

theorem isSlash_part : ∀ part ∈ p.parts, ∀ c ∈ part, isSlash c = false :=
  fun part hpart c hc => isSlash_of_isPlain (p.parts_plain part hpart c hc)

theorem tail_cases (n : Nat) : p.tail n = [] ∨ ∃ rest, p.tail n = '/' :: rest := by
  rw [tail]
  cases p.parts with
  | nil =>
      cases n with
      | zero => exact .inl rfl
      | succ n => exact .inr ⟨List.replicate n '/', rfl⟩
  | cons part parts => exact .inr ⟨part ++ joined parts ++ List.replicate n '/', by simp [joined]⟩

theorem mem_tail {n : Nat} {c : Char} (h : c ∈ p.tail n) : c = '/' ∨ isPlain c = true := by
  rcases List.mem_append.mp h with h | h
  · obtain ⟨part, hpart, hc⟩ := List.mem_flatMap.mp h
    exact (List.mem_cons.mp hc).imp id (p.parts_plain part hpart c)
  · exact .inl (List.eq_of_mem_replicate h)

theorem isEdge_tail (n : Nat) : ∀ c ∈ p.tail n, isEdge c = false := by
  intro c hc
  rcases p.mem_tail hc with rfl | hc
  · decide
  · exact (isPlain_iff.mp hc).1

theorem notMem_tail {mark : Char} (hne : mark ≠ '/') (hp : isPlain mark = false) (n : Nat) :
    mark ∉ p.tail n := by
  intro h
  rcases p.mem_tail h with h | h
  · exact hne h
  · rw [hp] at h
    exact absurd h (by simp)

theorem exists_last : ∃ init last, last ≠ '/' ∧
    p.scheme.name.toList ++ "://".toList ++ p.authority ++ joined p.parts = init ++ [last] := by
  rcases List.eq_nil_or_concat' p.parts with hnil | ⟨parts, part, hparts⟩
  · obtain ⟨init, last, hlast, he⟩ := exists_last_of_plain p.authority_ne p.authority_plain
    refine ⟨p.scheme.name.toList ++ "://".toList ++ init, last, hlast, ?_⟩
    rw [hnil, he, joined, List.flatMap_nil, List.append_nil, List.append_assoc _ init]
  · have hmem : part ∈ p.parts := by
      rw [hparts]
      exact List.mem_append_right _ (List.mem_singleton_self _)
    obtain ⟨init, last, hlast, he⟩ :=
      exists_last_of_plain (fun hnil => p.parts_ne (hnil ▸ hmem)) (p.parts_plain part hmem)
    refine ⟨p.scheme.name.toList ++ "://".toList ++ p.authority ++ joined parts ++ '/' :: init, last,
      hlast, ?_⟩
    rw [hparts, he, joined, List.flatMap_append, List.flatMap_singleton, ← joined]
    simp only [List.append_assoc, List.cons_append]

theorem slash_textWith (n : Nat) :
    String.ofList (Text.dropEnd '/' (p.textWith n).toList) ++ "/" ++ Text.percentEncode "" =
      p.textWith 1 := by
  obtain ⟨init, last, hlast, hstart⟩ := p.exists_last
  have htext (n : Nat) : (p.textWith n).toList = init ++ [last] ++ List.replicate n '/' := by
    rw [textWith, String.toList_ofList, tail, ← List.append_assoc, hstart]
  apply String.toList_injective
  rw [htext, htext, Text.dropEnd_append_concat hlast]
  simp only [String.toList_append, String.toList_ofList, List.append_assoc]
  rfl

theorem parse_textWith (n : Nat) (u : Url) :
    parse (p.textWith n) = .ok u ↔ (site? p.scheme p.authority).map (fun site =>
      { site with path := segments (p.tail n), query := none, fragment := none }) = some u := by
  rw [parse_eq_ok_iff, textWith, read?_of_plain p.authority_ne p.authority_plain (p.tail_cases n)
    (p.isEdge_tail n), Option.map_map]
  have htail (site : Url) : withTail site (p.tail n) =
      { site with path := segments (p.tail n), query := none, fragment := none } :=
    withTail_of_notMem (p.notMem_tail (by decide) (by decide) n)
      (p.notMem_tail (by decide) (by decide) n)
  simp only [Function.comp_def, htail]

theorem trimmed_tail (n : Nat) : trimmed (segments (p.tail n)) = place (joined p.parts) := by
  rw [trimmed_segments, tail, place_slashes, trimmed_place_joined p.parts_ne p.isSlash_part]

theorem parse_slash {u : Url} (h : parse p.text = .ok u) :
    u.query = none ∧ u.fragment = none ∧
      parse (String.ofList (Text.dropEnd '/' p.text.toList) ++ "/" ++ Text.percentEncode "") =
        .ok { u with path := trimmed u.path ++ [""] } := by
  obtain ⟨site, hsite, rfl⟩ := Option.map_eq_some_iff.mp ((p.parse_textWith _ u).mp h)
  rw [text, p.slash_textWith]
  refine ⟨rfl, rfl, (p.parse_textWith 1 _).mpr ?_⟩
  have hpath : segments (p.tail 1) = place (joined p.parts) ++ [""] :=
    segments_below (joined p.parts) ""
  rw [hsite, Option.map_some, p.trimmed_tail, hpath]

end Plain

end ControlPlane.Url
