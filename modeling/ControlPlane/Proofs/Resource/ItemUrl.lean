import Mathlib
import ControlPlane.Proofs.Http.Absolute
import ControlPlane.Proofs.Resource.Operation

namespace ControlPlane

open Http (Gateway)

namespace Url

def Names (v u : Url) (id : String) : Prop :=
  ∃ segment : String, segment ≠ "" ∧ (∀ c ∈ segment.toList, isSlash c = false) ∧
    Text.percentDecode segment = some id ∧ v.query = none ∧ v.fragment = none ∧
    v = { u with path := trimmed u.path ++ [segment] }

end Url

namespace Schema

variable {s : Schema} {g : Gateway} {collection : String} {u : Url}

structure OpenEnded (s : Schema) (g : Gateway) (collection : String) (u : Url) : Prop where
  query : u.query = none
  fragment : u.fragment = none
  slash : s.locate g (itemPath collection "") = .ok { u with path := Url.trimmed u.path ++ [""] }

theorem locate_item (hu : s.locate g collection = .ok u) : ∃ text,
    g.absolute (s.request .get collection) = .ok text ∧ Url.parse text = .ok u ∧
      ∀ id v, s.locate g (itemPath collection id) = .ok v ↔ Url.parse (itemPath text id) = .ok v := by
  obtain ⟨text, habs, hparse⟩ := locate_eq_ok_iff.mp hu
  refine ⟨text, habs, hparse, fun id v => ?_⟩
  rw [locate_eq_ok_iff, absolute_item habs hparse id]
  simp

theorem OpenEnded.locate (h : s.OpenEnded g collection u) (hu : s.locate g collection = .ok u)
    (id : String) : s.locate g (itemPath collection id) =
      .ok { u with path := Url.below (Url.trimmed u.path) id } := by
  obtain ⟨text, -, -, hitem⟩ := locate_item hu
  obtain ⟨place, hplace, hall⟩ := Url.parse_below ((hitem "" _).mp h.slash) h.query h.fragment (.inl rfl)
  obtain ⟨rfl, -⟩ := List.append_singleton_inj.mp hplace
  exact (hitem id _).mpr (hall id)

theorem openEnded_of_names (hu : s.locate g collection = .ok u) {id : String} {v : Url}
    (hv : s.locate g (itemPath collection id) = .ok v) (hn : v.Names u id) :
    Url.IsSegment id ∧ s.OpenEnded g collection u := by
  obtain ⟨segment, hne, -, -, hq, hf, rfl⟩ := hn
  obtain ⟨text, -, -, hitem⟩ := locate_item hu
  have hpath : Url.trimmed u.path ++ [segment] ≠ [""] := fun h =>
    hne (by simpa using congrArg List.getLast? h)
  -- the place found with this id is the one that the empty id is found from
  obtain ⟨place, hplace, hall⟩ := Url.parse_below ((hitem id _).mp hv) hq hf (.inr hpath)
  by_cases hid : Url.IsSegment id
  · rw [Url.below_of_isSegment hid] at hplace
    obtain ⟨rfl, -⟩ := List.append_singleton_inj.mp hplace
    exact ⟨hid, hq, hf, (hitem "" _).mpr (hall "")⟩
  · obtain ⟨front, hfront⟩ := Url.below_of_not_isSegment hid place
    rw [hfront] at hplace
    exact absurd (List.append_singleton_inj.mp hplace).2 hne

theorem names_below {id : String} (h : Url.IsSegment id) (hq : u.query = none)
    (hf : u.fragment = none) :
    Url.Names { u with path := Url.below (Url.trimmed u.path) id } u id := by
  have hslash := (Text.isEscaped_percentEncode id).forall (P := fun c => Url.isSlash c = false)
    (by decide) (by decide)
  exact ⟨Text.percentEncode id, fun he => h.1 (Text.percentEncode_eq_empty he), hslash,
    Text.percentDecode_percentEncode id, hq, hf, by rw [Url.below_of_isSegment h]⟩

theorem eq_of_below {place : List String} {id id' : String} (hid : Url.IsSegment id)
    (h : Url.below place id = Url.below place id') : id = id' := by
  rw [Url.below_of_isSegment hid] at h
  by_cases hid' : Url.IsSegment id'
  · rw [Url.below_of_isSegment hid'] at h
    exact Text.percentEncode_injective (List.append_singleton_inj.mp h).2
  · obtain ⟨front, hfront⟩ := Url.below_of_not_isSegment hid' place
    rw [hfront] at h
    exact absurd (Text.percentEncode_eq_empty (List.append_singleton_inj.mp h).2) hid.1

theorem openEnded_of_plain (hu : s.locate g collection = .ok u) (p : Url.Plain)
    (hp : g.absolute (s.request .get collection) = .ok p.text) : s.OpenEnded g collection u := by
  obtain ⟨text, habs, hparse, hitem⟩ := locate_item hu
  obtain rfl : text = p.text := by
    rw [habs, Except.ok.injEq] at hp
    exact hp
  obtain ⟨hq, hf, hslash⟩ := p.parse_slash hparse
  exact ⟨hq, hf, (hitem "" _).mpr hslash⟩

structure ItemUrls (s : Schema) (g : Gateway) (collection : String) (u : Url) : Prop where
  named_iff : ∀ id, (∃ v, s.locate g (itemPath collection id) = .ok v ∧ v.Names u id) ↔
    Url.IsSegment id ∧ s.OpenEnded g collection u
  openEnded : ∀ p : Url.Plain, g.absolute (s.request .get collection) = .ok p.text →
    s.OpenEnded g collection u
  distinct : s.OpenEnded g collection u → ∀ id id', Url.IsSegment id →
    s.locate g (itemPath collection id) = s.locate g (itemPath collection id') → id = id'
  empty : s.OpenEnded g collection u →
    s.locate g (itemPath collection "") = .ok { u with path := Url.trimmed u.path ++ [""] }
  oneDot : s.OpenEnded g collection u →
    s.locate g (itemPath collection ".") = .ok { u with path := Url.trimmed u.path ++ [""] }
  twoDots : s.OpenEnded g collection u → s.locate g (itemPath collection "..") =
    .ok { u with path := (Url.trimmed u.path).dropLast ++ [""] }

theorem itemUrls (hu : s.locate g collection = .ok u) : s.ItemUrls g collection u where
  named_iff id := by
    constructor
    · rintro ⟨v, hv, hn⟩
      exact openEnded_of_names hu hv hn
    · rintro ⟨hid, ho⟩
      exact ⟨_, ho.locate hu id, names_below hid ho.query ho.fragment⟩
  openEnded := openEnded_of_plain hu
  distinct ho id id' hid h := by
    rw [ho.locate hu, ho.locate hu, Except.ok.injEq, Url.mk.injEq] at h
    exact eq_of_below hid h.2.2.2.2.1
  empty ho := ho.slash
  oneDot ho := ho.locate hu "."
  twoDots ho := ho.locate hu ".."

end Schema

namespace Resource

variable {r : Resource}

theorem locate_requestTo (g : Gateway) (r : Resource) (op : Operation) (uri : String) :
    g.locate (r.requestTo op uri) = r.schema.locate g uri := by
  cases op <;> rfl

theorem itemUrls_of_path (g : Gateway) {uri : String} (h : r.path true = .ok uri) : ∃ collection id,
    r.path false = .ok collection ∧ r.id? = some id ∧ uri = itemPath collection id ∧
    (∀ op q, r.needsId op = true → r.plan op = .ok (some q) → g.locate q = r.schema.locate g uri) ∧
    ∀ u, r.schema.locate g collection = .ok u → r.schema.ItemUrls g collection u := by
  obtain ⟨collection, id, hcollection, hid, huri⟩ := path_true_eq_ok h
  refine ⟨collection, id, (path_collection r).trans hcollection, hid, huri,
    fun op q hop hplan => ?_, fun u hu => Schema.itemUrls hu⟩
  obtain ⟨-, uri', huri', rfl⟩ := plan_eq_ok_some hplan
  rw [hop, h, Except.ok.injEq] at huri'
  rw [locate_requestTo, huri']

def door : Schema := { kind := "lab.door", service := "lab", basePath := "/doors" }

def lab : Gateway := { endpoints := .ofList [("lab", "http://lab/v1")], requestId := fun _ => "" }

def labAt (path : List String) : Url := { scheme := .http, host := .name "lab", path := path }

theorem labDoors_plain :
    (["v1".toList, "doors".toList].all fun part => part.all Url.isPlain) = true := by
  decide

def labDoors : Url.Plain where
  scheme := .http
  authority := "lab".toList
  parts := ["v1".toList, "doors".toList]
  slashes := 0
  authority_ne := by decide
  authority_plain := List.all_eq_true.mp (by decide)
  parts_ne := by decide
  parts_plain _ h := List.all_eq_true.mp (List.all_eq_true.mp labDoors_plain _ h)

theorem front_door_itemUrls :
    (withId door "1/front").path true = .ok "/doors/1%2Ffront" ∧
    lab.absolute (door.request .get "/doors") = .ok labDoors.text ∧
    door.locate lab "/doors" = .ok (labAt ["v1", "doors"]) ∧
    ∃ v, door.locate lab "/doors/1%2Ffront" = .ok v ∧ v.Names (labAt ["v1", "doors"]) "1/front" := by
  have hpath : (withId door "1/front").path true = .ok "/doors/1%2Ffront" := by cbv
  have hdoors : (withId door "1/front").path false = .ok "/doors" := by cbv
  have hfront : (withId door "1/front").id? = some "1/front" := by cbv
  obtain ⟨collection, id, hcollection, hid, huri, -, hurls⟩ := itemUrls_of_path lab hpath
  obtain rfl : "/doors" = collection := Except.ok.inj (hdoors.symm.trans hcollection)
  obtain rfl : "1/front" = id := Option.some.inj (hfront.symm.trans hid)
  have hu := hurls (labAt ["v1", "doors"]) rfl
  refine ⟨hpath, rfl, rfl, ?_⟩
  rw [huri]
  exact (hu.named_iff "1/front").mpr ⟨by decide, hu.openEnded labDoors rfl⟩

def DeletesElsewhere (s : Schema) (g : Gateway) (u : Url) (id : String) (v : Url) : Prop :=
  ∃ uri q, (withId s id).path true = .ok uri ∧ (withId s id).plan .delete = .ok (some q) ∧
    g.locate q = .ok v ∧ ¬v.Names u id

theorem deletesElsewhere {s : Schema} {g : Gateway} {id uri : String} {u v : Url}
    (hs : s.permits .delete = true) (h : (withId s id).path true = .ok uri)
    (hv : s.locate g uri = .ok v)
    (hpath : ∀ segment, v.path = Url.trimmed u.path ++ [segment] → segment = "") :
    DeletesElsewhere s g u id v := by
  have hplan : (withId s id).plan .delete = .ok (some ((withId s id).requestTo .delete uri)) := by
    rw [plan_of_work (fun he => absurd he (by simp)), checked_of_permitted hs, needsId, h]
    rfl
  refine ⟨uri, _, h, hplan, (locate_requestTo g _ .delete uri).trans hv, ?_⟩
  rintro ⟨segment, hne, -, -, -, -, he⟩
  exact hne (hpath segment (congrArg Url.path he))

theorem dots_delete_elsewhere :
    door.locate lab "/doors" = .ok (labAt ["v1", "doors"]) ∧
    DeletesElsewhere door lab (labAt ["v1", "doors"]) "" (labAt ["v1", "doors", ""]) ∧
    DeletesElsewhere door lab (labAt ["v1", "doors"]) "." (labAt ["v1", "doors", ""]) ∧
    DeletesElsewhere door lab (labAt ["v1", "doors"]) ".." (labAt ["v1", ""]) := by
  have hempty : (withId door "").path true = .ok "/doors/" := by cbv
  have hone : (withId door ".").path true = .ok "/doors/." := by cbv
  have htwo : (withId door "..").path true = .ok "/doors/.." := by cbv
  have hslash : ∀ segment, ["v1", "doors", ""] = ["v1", "doors"] ++ [segment] → segment = "" :=
    fun _ h => by simpa using h.symm
  have hup : ∀ segment, ["v1", ""] = ["v1", "doors"] ++ [segment] → segment = "" :=
    fun _ h => absurd (congrArg List.length h) (by simp)
  exact ⟨rfl, deletesElsewhere rfl hempty rfl hslash, deletesElsewhere rfl hone rfl hslash,
    deletesElsewhere rfl htwo rfl hup⟩

end Resource

end ControlPlane
