import ControlPlane.Http.Gateway
import ControlPlane.Proofs.Url.Plain
import ControlPlane.Resource.Exchange

namespace ControlPlane

open Http (Gateway)

namespace Http.Gateway

def hasScheme (scheme : Scheme) (cs : List Char) : Bool :=
  (scheme.name.toList ++ "://".toList).isPrefixOf cs

theorem isAbsolute_eq (cs : List Char) :
    isAbsolute (String.ofList cs) = (hasScheme .http cs || hasScheme .https cs) := by
  have hplain : "http://".toList = Scheme.http.name.toList ++ "://".toList := by decide
  have hsecure : "https://".toList = Scheme.https.name.toList ++ "://".toList := by decide
  have hcs : (String.ofList cs).toList = cs := String.toList_ofList
  rw [isAbsolute, hcs, hplain, hsecure]
  rfl

theorem isAbsolute_iff {url : String} :
    isAbsolute url = true ↔ ∃ scheme, hasScheme scheme url.toList = true := by
  rw [← String.ofList_toList (s := url), isAbsolute_eq, String.ofList_toList, Bool.or_eq_true]
  refine ⟨fun h => h.elim (fun h => ⟨.http, h⟩) fun h => ⟨.https, h⟩, ?_⟩
  rintro ⟨scheme, h⟩
  cases scheme with
  | http => exact .inl h
  | https => exact .inr h

theorem dropEnd_scheme (scheme : Scheme) :
    Text.dropEnd '/' (scheme.name.toList ++ "://".toList) = scheme.name.toList ++ [':'] := by
  cases scheme <;> rfl

theorem hasScheme_append {scheme : Scheme} {start rest : List Char}
    (h : hasScheme scheme (start ++ rest) = true) :
    hasScheme scheme start = true ∨
      ∃ more, more <+: rest ∧ scheme.name.toList ++ "://".toList = start ++ more := by
  obtain ⟨others, h⟩ := List.isPrefixOf_iff_prefix.mp h
  rcases List.append_eq_append_iff.mp h with ⟨more, hs, -⟩ | ⟨more, hs, hm⟩
  · exact .inl (List.isPrefixOf_iff_prefix.mpr ⟨more, hs.symm⟩)
  · exact .inr ⟨more, ⟨others, hm.symm⟩, hs⟩

theorem hasScheme_of_start {scheme : Scheme} {start : List Char} (h : hasScheme scheme start = true)
    (rest : List Char) : hasScheme scheme (start ++ rest) = true :=
  List.isPrefixOf_iff_prefix.mpr ((List.isPrefixOf_iff_prefix.mp h).trans (List.prefix_append _ _))

theorem length_below {start e more : List Char} (hstart : Text.dropEnd '/' start = start)
    (he : '/' ∉ e) (hmore : more <+: '/' :: e) :
    (start ++ more).length ≤ (Text.dropEnd '/' (start ++ more)).length + 1 := by
  rcases List.prefix_cons_iff.mp hmore with rfl | ⟨inner, rfl, hinner⟩
  · rw [List.append_nil, hstart]
    exact Nat.le_succ _
  · rcases List.eq_nil_or_concat' inner with rfl | ⟨init, last, rfl⟩
    · rw [Text.dropEnd_concat_self, hstart, List.length_append]
      exact Nat.le_refl _
    · have hlast : last ≠ '/' := fun hl =>
        he (hinner.subset (hl ▸ List.mem_append_right _ (List.mem_singleton_self _)))
      rw [← List.cons_append, ← List.append_assoc, Text.dropEnd_concat hlast]
      exact Nat.le_succ _

theorem hasScheme_below {start e : List Char} (hstart : Text.dropEnd '/' start = start)
    (he : '/' ∉ e) (scheme : Scheme) :
    hasScheme scheme (start ++ '/' :: e) = hasScheme scheme start := by
  rw [Bool.eq_iff_iff]
  refine ⟨fun h => ?_, fun h => hasScheme_of_start h _⟩
  rcases hasScheme_append h with h | ⟨more, hmore, hs⟩
  · exact h
  · -- the text of a scheme ends in two slashes
    have hone := length_below hstart he hmore
    rw [← hs, dropEnd_scheme, List.length_append, List.length_append] at hone
    exact absurd hone (by simp)

theorem hasScheme_slashes {start : List Char} (hstart : Text.dropEnd '/' start = start) {n : Nat}
    {scheme : Scheme} (h : hasScheme scheme (start ++ List.replicate n '/') = true) :
    hasScheme scheme start = true ∨ start = scheme.name.toList ++ [':'] := by
  rcases hasScheme_append h with h | ⟨more, hmore, hs⟩
  · exact .inl h
  · have hslashes : more = List.replicate more.length '/' :=
      List.eq_replicate_length.mpr fun c hc => List.eq_of_mem_replicate (hmore.subset hc)
    right
    rw [← dropEnd_scheme, hs, hslashes, Text.dropEnd_append_replicate, hstart]

theorem isAbsolute_below {start e : List Char} (hstart : Text.dropEnd '/' start = start)
    (he : '/' ∉ e) : isAbsolute (String.ofList (start ++ '/' :: e)) = isAbsolute (String.ofList start) := by
  rw [isAbsolute_eq, isAbsolute_eq, hasScheme_below hstart he, hasScheme_below hstart he]

theorem parse_scheme_slashes (scheme : Scheme) (n : Nat) (u : Url) :
    Url.parse (String.ofList (scheme.name.toList ++ ':' :: List.replicate n '/')) ≠ .ok u := by
  have hedge : ∀ c ∈ scheme.name.toList ++ ':' :: List.replicate n '/', Url.isEdge c = false := by
    intro c hc
    rcases List.mem_append.mp hc with hc | hc
    · exact Url.isEdge_name scheme c (List.mem_append_left _ hc)
    · rcases List.mem_cons.mp hc with rfl | hc
      · decide
      · rw [List.eq_of_mem_replicate hc]
        decide
  have hparts : Url.parts (List.replicate n '/') = ([], []) := by
    have hdrop : (List.replicate n '/').dropWhile Url.isSlash = [] :=
      List.dropWhile_eq_nil_iff.mpr fun c hc => by
        rw [List.eq_of_mem_replicate hc]
        decide
    rw [Url.parts, hdrop]
    rfl
  intro h
  rw [Url.parse_eq_ok_iff, Url.tidy_of_plain hedge, Url.read?, Url.cutScheme?_name, Option.bind_some,
    Url.ofName?_name, Option.bind_some, hparts, Url.site?_nil] at h
  exact absurd h (by simp)

theorem isAbsolute_of_dropEnd {url : String}
    (h : isAbsolute (String.ofList (Text.dropEnd '/' url.toList)) = true) : isAbsolute url = true := by
  obtain ⟨n, hn⟩ := Text.eq_dropEnd_append '/' url.toList
  obtain ⟨scheme, hs⟩ := isAbsolute_iff.mp h
  refine isAbsolute_iff.mpr ⟨scheme, ?_⟩
  rw [String.toList_ofList] at hs
  rw [hn]
  exact hasScheme_of_start hs _

theorem isAbsolute_dropEnd {url : String} (h : isAbsolute url = true) {u : Url}
    (hu : Url.parse url = .ok u) :
    isAbsolute (String.ofList (Text.dropEnd '/' url.toList)) = true := by
  obtain ⟨n, hn⟩ := Text.eq_dropEnd_append '/' url.toList
  obtain ⟨scheme, hs⟩ := isAbsolute_iff.mp h
  rw [hn] at hs
  rcases hasScheme_slashes (Text.dropEnd_dropEnd _) hs with hs | hs
  · exact isAbsolute_iff.mpr ⟨scheme, by rwa [String.toList_ofList]⟩
  · rw [hs, List.append_assoc, List.singleton_append] at hn
    rw [← String.ofList_toList (s := url), hn] at hu
    exact absurd hu (parse_scheme_slashes scheme n u)

theorem join_below {base e : List Char} (hbase : Text.dropEnd '/' base = base) (he : '/' ∉ e)
    (cs : List Char) :
    base ++ '/' :: Text.dropStart '/' (Text.dropEnd '/' cs ++ '/' :: e) =
      Text.dropEnd '/' (base ++ '/' :: Text.dropStart '/' cs) ++ '/' :: e := by
  rcases Text.ends_cases '/' cs with ⟨n, rfl⟩ | ⟨start, last, n, hlast, rfl⟩
  · have hnone : Text.dropStart '/' (List.replicate n '/') = [] := by
      rw [← List.append_nil (List.replicate n '/'), Text.dropStart_replicate]
      rfl
    rw [Text.dropEnd_replicate, hnone, Text.dropEnd_concat_self, hbase]
    exact congrArg (base ++ '/' :: ·) (Text.dropStart_of_notMem he)
  · have hleft : Text.dropStart '/' (start ++ [last] ++ '/' :: e) =
        Text.dropStart '/' start ++ last :: '/' :: e := by
      rw [List.append_assoc, List.singleton_append, Text.dropStart_append hlast]
    have hright : base ++ '/' :: Text.dropStart '/' (start ++ [last] ++ List.replicate n '/') =
        base ++ '/' :: Text.dropStart '/' start ++ [last] ++ List.replicate n '/' := by
      rw [List.append_assoc start, List.singleton_append, Text.dropStart_append hlast]
      simp only [List.append_assoc, List.cons_append, List.nil_append]
    rw [Text.dropEnd_append_concat hlast, hleft, hright, Text.dropEnd_append_concat hlast]
    simp only [List.append_assoc, List.cons_append, List.nil_append]

theorem toList_itemPath (collection id : String) :
    (itemPath collection id).toList =
      Text.dropEnd '/' collection.toList ++ '/' :: (Text.percentEncode id).toList := by
  simp [itemPath]

theorem join_item (endpoint collection id : String) :
    join endpoint (itemPath collection id) = itemPath (join endpoint collection) id := by
  apply String.toList_injective
  rw [toList_itemPath, join, String.toList_ofList, toList_itemPath, join, String.toList_ofList]
  exact join_below (Text.dropEnd_dropEnd _) (Text.slash_notMem_percentEncode id) collection.toList

end Http.Gateway

namespace Schema

variable {s : Schema} {g : Gateway} {collection : String}

def locate (s : Schema) (g : Gateway) (path : String) : Except Error Url :=
  g.locate (s.request .get path)

theorem locate_eq_ok_iff {path : String} {u : Url} :
    s.locate g path = .ok u ↔
      ∃ text, g.absolute (s.request .get path) = .ok text ∧ Url.parse text = .ok u := by
  rw [locate, Gateway.locate]
  cases g.absolute (s.request .get path) with
  | error e => simp [bind, Except.bind]
  | ok text =>
      cases hp : Url.parse text with
      | ok found => simp [bind, Except.bind, hp]
      | error fault => cases fault <;> simp [bind, Except.bind, hp]

theorem absolute_request (s : Schema) (g : Gateway) (path : String) :
    g.absolute (s.request .get path) =
      if Gateway.isAbsolute path then .ok path
      else (g.base (s.request .get "")).map fun endpoint => Gateway.join endpoint path := rfl

theorem absolute_item {text : String} {u : Url}
    (h : g.absolute (s.request .get collection) = .ok text) (hu : Url.parse text = .ok u) (id : String) :
    g.absolute (s.request .get (itemPath collection id)) = .ok (itemPath text id) := by
  have hitem : Gateway.isAbsolute (itemPath collection id) =
      Gateway.isAbsolute (String.ofList (Text.dropEnd '/' collection.toList)) := by
    rw [← Gateway.isAbsolute_below (Text.dropEnd_dropEnd _) (Text.slash_notMem_percentEncode id),
      ← Gateway.toList_itemPath, String.ofList_toList]
  rw [absolute_request] at h ⊢
  rw [hitem]
  cases hc : Gateway.isAbsolute collection with
  | true =>
      rw [hc, if_pos rfl, Except.ok.injEq] at h
      subst h
      rw [Gateway.isAbsolute_dropEnd hc hu, if_pos rfl]
  | false =>
      have hstart : Gateway.isAbsolute (String.ofList (Text.dropEnd '/' collection.toList)) = false := by
        rw [Bool.eq_false_iff] at hc ⊢
        exact fun h => hc (Gateway.isAbsolute_of_dropEnd h)
      rw [hc, if_neg (by simp)] at h
      rw [hstart, if_neg (by simp)]
      cases hb : g.base (s.request .get "") with
      | error e =>
          rw [hb] at h
          exact absurd h (by simp [Except.map])
      | ok endpoint =>
          rw [hb] at h
          obtain rfl : Gateway.join endpoint collection = text := Except.ok.inj h
          exact congrArg Except.ok (Gateway.join_item endpoint collection id)

end Schema

end ControlPlane
