import ControlPlane.Proofs.Url.Path
import ControlPlane.Url

namespace ControlPlane

def Scheme.ofName? : String → Option Scheme
  | "http" => some .http
  | "https" => some .https
  | _ => none

namespace Url

def site? (scheme : Scheme) (authority : List Char) : Option Url := do
  let (user, place) := cutUser authority
  let (host, port) := cutPort false place
  let host ← Host.parse? host
  let port ← readPort? scheme port
  some { scheme := scheme, user := user, host := host, port := port, path := [] }

def withTail (site : Url) (tail : List Char) : Url :=
  let (rest, fragment) := Text.cut '#' tail
  let (path, query) := Text.cut '?' rest
  { site with
    path := segments path, query := query.map (encode staysInQuery)
    fragment := fragment.map (encode staysInFragment) }

def parts (rest : List Char) : List Char × List Char :=
  (rest.dropWhile isSlash).span (!endsAuthority ·)

def read? (cs : List Char) : Option (Url × List Char) :=
  (cutScheme? cs).bind fun named =>
    (Scheme.ofName? named.1).bind fun scheme =>
      (site? scheme (parts named.2).1).map fun site => (site, (parts named.2).2)

theorem ofRest?_eq (scheme : Scheme) (rest : List Char) :
    ofRest? scheme rest =
      (site? scheme (parts rest).1).map fun site => withTail site (parts rest).2 := by
  rw [ofRest?, site?, ← parts]
  simp only [bind, Option.bind, Option.map]
  cases Host.parse? (cutPort false (cutUser (parts rest).1).2).1 with
  | none => rfl
  | some host =>
      cases readPort? scheme (cutPort false (cutUser (parts rest).1).2).2 <;> rfl

theorem orMalformed_eq_ok_iff {found : Option Url} {u : Url} :
    orMalformed found = .ok u ↔ found = some u := by
  cases found <;> simp [orMalformed]

theorem parse_eq_ok_iff {text : String} {u : Url} :
    parse text = .ok u ↔
      (read? (tidy text)).map (fun read => withTail read.1 read.2) = some u := by
  rw [parse, read?]
  cases cutScheme? (tidy text) with
  | none => simp
  | some named =>
      obtain ⟨name, rest⟩ := named
      rw [Option.bind_some]
      have hknown (scheme : Scheme) : orMalformed (ofRest? scheme rest) = .ok u ↔
          ((site? scheme (parts rest).1).map fun site => (site, (parts rest).2)).map
            (fun read => withTail read.1 read.2) = some u := by
        rw [orMalformed_eq_ok_iff, ofRest?_eq, Option.map_map]
        rfl
      by_cases hplain : name = "http"
      · subst hplain
        exact hknown .http
      · by_cases hsecure : name = "https"
        · subst hsecure
          exact hknown .https
        · simp [Scheme.ofName?, hplain, hsecure]

def isEdge (c : Char) : Bool := c.toNat ≤ 0x20

def staysInside (c : Char) : Bool := !"\t\n\r".toList.contains c

theorem tidy_eq (text : String) :
    tidy text = ((text.toList.dropWhile isEdge).rdropWhile isEdge).filter staysInside := rfl

theorem isEdge_slash_cons {e : List Char} (h : Text.IsEscaped e) :
    ∀ c ∈ '/' :: e, isEdge c = false :=
  List.forall_mem_cons.mpr ⟨by decide, h.forall (by decide) (by decide)⟩

theorem staysInside_slash_cons {e : List Char} (h : Text.IsEscaped e) :
    ∀ c ∈ '/' :: e, staysInside c = true :=
  List.forall_mem_cons.mpr ⟨by decide, h.forall (by decide) (by decide)⟩

def tidyStart (start : List Char) : List Char := (start.dropWhile isEdge).filter staysInside

theorem tidy_below {e : List Char} (h : Text.IsEscaped e) (start : List Char) :
    tidy (String.ofList (start ++ '/' :: e)) = tidyStart start ++ '/' :: e := by
  have hlast : (start.dropWhile isEdge ++ '/' :: e).rdropWhile isEdge =
      start.dropWhile isEdge ++ '/' :: e := by
    rw [List.rdropWhile_eq_self_iff]
    intro hne
    rw [List.getLast_append_of_ne_nil _ (List.cons_ne_nil _ _)]
    simp [isEdge_slash_cons h _ (List.getLast_mem (List.cons_ne_nil _ _))]
  rw [tidy_eq, String.toList_ofList, Text.dropWhile_append (by decide), hlast, List.filter_append,
    List.filter_eq_self.mpr (staysInside_slash_cons h)]
  rfl

theorem cutScheme?_append (cs e : List Char) :
    cutScheme? (cs ++ '/' :: e) = (cutScheme? cs).map fun named => (named.1, named.2 ++ '/' :: e) := by
  rw [cutScheme?, cutScheme?, Text.span_append (by decide)]
  generalize cs.span isSchemeChar = split
  obtain ⟨name, rest⟩ := split
  cases name with
  | nil => rfl
  | cons first others =>
      cases rest with
      | nil => simp
      | cons c rest =>
          by_cases hc : c = ':'
          · subst hc
            cases hf : first.isAlpha <;> simp [hf]
          · simp [hc]

theorem parts_append {rest : List Char} (h : ∃ c ∈ rest, isSlash c = false) (e : List Char) :
    parts (rest ++ '/' :: e) = ((parts rest).1, (parts rest).2 ++ '/' :: e) := by
  have hdrop : (rest ++ '/' :: e).dropWhile isSlash = rest.dropWhile isSlash ++ '/' :: e := by
    obtain ⟨c, hc, hslash⟩ := h
    obtain ⟨before, after, rfl⟩ := List.append_of_mem hc
    rw [List.append_assoc, List.cons_append, Text.dropWhile_append hslash,
      Text.dropWhile_append hslash, List.append_assoc, List.cons_append]
  rw [parts, hdrop, Text.span_append (by decide)]
  rfl

theorem parts_slashes {rest e : List Char} (h : ∀ c ∈ rest, isSlash c = true)
    (he : Text.IsEscaped e) : parts (rest ++ '/' :: e) = (e, []) := by
  have hslash : ∀ c ∈ e, isSlash c = false := he.forall (by decide) (by decide)
  have hends : ∀ c ∈ e, (!endsAuthority c) = true := he.forall (by decide) (by decide)
  have hdrop : (rest ++ '/' :: e).dropWhile isSlash = e := by
    rw [List.dropWhile_append_of_pos h]
    cases e with
    | nil => rfl
    | cons c e =>
        change (c :: e).dropWhile isSlash = c :: e
        rw [List.dropWhile_cons_of_neg]
        simp [hslash c (List.mem_cons_self ..)]
  rw [parts, hdrop, List.span_eq_takeWhile_dropWhile, List.takeWhile_eq_self_iff.mpr hends,
    List.dropWhile_eq_nil_iff.mpr hends]

theorem site?_nil (scheme : Scheme) : site? scheme [] = none := rfl

theorem read?_below {start e : List Char} (he : Text.IsEscaped e) {site : Url} {tail : List Char}
    (h : read? (tidy (String.ofList (start ++ '/' :: e))) = some (site, tail))
    (htail : e = [] ∨ tail ≠ []) :
    ∃ path, tail = path ++ '/' :: e ∧ ∀ e', Text.IsEscaped e' →
      read? (tidy (String.ofList (start ++ '/' :: e'))) = some (site, path ++ '/' :: e') := by
  rw [tidy_below he, read?, cutScheme?_append, Option.bind_map] at h
  obtain ⟨⟨name, rest⟩, hname, h⟩ := Option.bind_eq_some_iff.mp h
  obtain ⟨scheme, hscheme, h⟩ := Option.bind_eq_some_iff.mp h
  obtain ⟨found, hfound, h⟩ := Option.map_eq_some_iff.mp h
  by_cases hrest : ∃ c ∈ rest, isSlash c = false
  · rw [parts_append hrest] at hfound h
    obtain ⟨rfl, rfl⟩ := Prod.mk.inj h
    refine ⟨(parts rest).2, rfl, fun e' he' => ?_⟩
    rw [tidy_below he', read?, cutScheme?_append, hname]
    simp only [Option.map_some, Option.bind_some, hscheme, parts_append hrest, hfound]
  · -- all of the text is slashes, and what stands behind them would be the host
    have hslashes : ∀ c ∈ rest, isSlash c = true := fun c hc =>
      Bool.not_eq_false _ ▸ fun hf => hrest ⟨c, hc, hf⟩
    rw [parts_slashes hslashes he] at hfound h
    obtain ⟨-, rfl⟩ := Prod.mk.inj h
    rw [htail.resolve_right fun hne => hne rfl, site?_nil] at hfound
    exact absurd hfound (by simp)

theorem withTail_of_notMem {site : Url} {path : List Char} (hmark : '#' ∉ path) (hquery : '?' ∉ path) :
    withTail site path = { site with path := segments path, query := none, fragment := none } := by
  rw [withTail, Text.cut_of_notMem hmark]
  dsimp only
  rw [Text.cut_of_notMem hquery]
  rfl

theorem notMem_of_withTail {site : Url} {path : List Char} (hq : (withTail site path).query = none)
    (hf : (withTail site path).fragment = none) : '#' ∉ path ∧ '?' ∉ path := by
  have hmark : '#' ∉ path := Text.notMem_of_cut (Option.map_eq_none_iff.mp hf)
  have hquery : '?' ∉ (Text.cut '#' path).1 := Text.notMem_of_cut (Option.map_eq_none_iff.mp hq)
  rw [Text.cut_of_notMem hmark] at hquery
  exact ⟨hmark, hquery⟩

theorem notMem_below {mark : Char} (hu : Text.isUnreserved mark = false) (hp : mark ≠ '%')
    {path e e' : List Char} (h : mark ∉ path ++ '/' :: e) (he : Text.IsEscaped e') :
    mark ∉ path ++ '/' :: e' := by
  simp only [List.mem_append, List.mem_cons, not_or] at h ⊢
  refine ⟨h.1, h.2.1, fun hmem => ?_⟩
  rcases he mark hmem with hc | hc
  · rw [hu] at hc
    exact absurd hc (by simp)
  · exact hp hc

theorem toList_below (text id : String) :
    text ++ "/" ++ Text.percentEncode id =
      String.ofList (text.toList ++ '/' :: (Text.percentEncode id).toList) := by
  apply String.toList_injective
  simp

theorem parse_below {text id : String} {u : Url}
    (h : parse (text ++ "/" ++ Text.percentEncode id) = .ok u) (hq : u.query = none)
    (hf : u.fragment = none) (hpath : id = "" ∨ u.path ≠ [""]) :
    ∃ place, u.path = below place id ∧ ∀ id',
      parse (text ++ "/" ++ Text.percentEncode id') = .ok { u with path := below place id' } := by
  rw [parse_eq_ok_iff, toList_below] at h
  obtain ⟨⟨site, tail⟩, hread, rfl⟩ := Option.map_eq_some_iff.mp h
  obtain ⟨hmark, hquery⟩ := notMem_of_withTail hq hf
  have htail : (Text.percentEncode id).toList = [] ∨ tail ≠ [] := by
    refine hpath.imp (fun he => by rw [he]; rfl) fun hne he => hne ?_
    rw [he]
    rfl
  obtain ⟨path, rfl, hall⟩ := read?_below (Text.isEscaped_percentEncode id) hread htail
  refine ⟨place path, ?_, fun id' => ?_⟩
  · rw [withTail_of_notMem hmark hquery, segments_below]
  · have hid' : Text.IsEscaped (Text.percentEncode id').toList := Text.isEscaped_percentEncode id'
    have hmark' := notMem_below (by decide) (by decide) hmark hid'
    have hquery' := notMem_below (by decide) (by decide) hquery hid'
    rw [parse_eq_ok_iff, toList_below, hall _ hid', Option.map_some,
      withTail_of_notMem hmark hquery, withTail_of_notMem hmark' hquery', segments_below]

end Url

end ControlPlane
