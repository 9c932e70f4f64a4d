import Mathlib
import ControlPlane.Proofs.Attribute.Reading
import ControlPlane.Proofs.Listing.Pages
import ControlPlane.Proofs.Reference
import ControlPlane.Proofs.Resource.Construction
import ControlPlane.Proofs.Resource.Reply

namespace ControlPlane

namespace Schema

structure Unambiguous (s : Schema) : Prop where
  names : FieldTable.Distinct s.fields
  wires : (s.fields.map (·.wire)).Nodup
  apart : ∀ f ∈ s.fields, ∀ g ∈ s.fields, f.wire = g.name → f = g

structure Records (s : Schema) (f : Field) (o : Dict Value) : Prop where
  keys : ∀ key, o.contains key = true →
    s.lookup? key = none ∨ ∃ g ∈ s.fields, g.location = .body ∧ g.wire = key
  id : ∃ text, o.get? f.wire = some (.text text)

def clientName (s : Schema) (wire : String) : String :=
  match s.fields.find? (·.wire == wire) with
  | some f => f.name
  | none => wire

def clientView (s : Schema) (o : Dict Value) : Dict Value :=
  .ofList (o.entries.map fun e => (s.clientName e.1, e.2))

variable {s : Schema} {f g : Field} {o attrs : Dict Value} {name key : String} {v : Value}

theorem find?_wire (hs : s.Unambiguous) (hg : g ∈ s.fields) :
    s.fields.find? (·.wire == g.wire) = some g := find?_of_nodup hs.wires hg

theorem lookup?_wire (hs : s.Unambiguous) (hg : g ∈ s.fields) : s.lookup? g.wire = some g := by
  rw [lookup?, find?_wire hs hg]
  cases hname : s.field? g.wire with
  | none => rfl
  | some h =>
      obtain ⟨hh, hwire⟩ := mem_of_field? hname
      rw [hs.apart g hg h hh hwire.symm]
      rfl

theorem route_of_records (hs : s.Unambiguous) (ho : s.Records f o) (hkey : o.contains key = true) :
    s.route key = (.body, key) ∧ s.route (s.clientName key) = (.body, key) := by
  rcases ho.keys key hkey with hunknown | ⟨g, hg, hbody, rfl⟩
  · have hwire : s.fields.find? (·.wire == key) = none := by
      rw [lookup?, Option.or_eq_none_iff] at hunknown
      exact hunknown.2
    rw [clientName, hwire]
    exact ⟨route_of_unknown hunknown, route_of_unknown hunknown⟩
  · rw [clientName, find?_wire hs hg]
    exact ⟨by rw [Resource.route_eq (lookup?_wire hs hg), hbody],
      by rw [route_of_field? (field?_of_mem hs.names hg), hbody]⟩

theorem get?_clientView (hs : s.Unambiguous) (ho : s.Records f o) :
    (s.clientView o).get? name = some v ↔ ∃ key, o.get? key = some v ∧ s.clientName key = name := by
  have hmem : ∀ w, (name, w) ∈ o.entries.map (fun e => (s.clientName e.1, e.2)) ↔
      ∃ key, o.get? key = some w ∧ s.clientName key = name := by
    intro w
    simp only [List.mem_map, Prod.exists, Dict.mem_entries_iff, Prod.mk.injEq]
    constructor
    · rintro ⟨key, u, hu, hname, rfl⟩
      exact ⟨key, hu, hname⟩
    · rintro ⟨key, hw, hname⟩
      exact ⟨key, w, hw, hname, rfl⟩
  rw [← hmem]
  refine Dict.get?_ofList_iff fun u w hu hw => ?_
  obtain ⟨key, hkey, hname⟩ := (hmem u).mp hu
  obtain ⟨other, hother, hname'⟩ := (hmem w).mp hw
  -- both names are routed to where their keys are, so the keys are one
  have hroute := (route_of_records hs ho (Dict.contains_of_get? hkey)).2
  rw [hname, ← hname', (route_of_records hs ho (Dict.contains_of_get? hother)).2] at hroute
  obtain rfl : other = key := (Prod.mk.inj hroute).2
  exact Option.some.inj (hkey.symm.trans hother)

theorem gather_of_spelling (spell : String → String)
    (hroute : ∀ key, o.contains key = true → s.route (spell key) = (.body, key))
    (hattrs : ∀ name v, attrs.get? name = some v ↔ ∃ key, o.get? key = some v ∧ spell key = name) :
    s.gather .body attrs = o := by
  refine Dict.ext_get? fun key => Option.ext fun v => get?_gather.trans ?_
  constructor
  · rintro ⟨name, hv, hname, -⟩
    obtain ⟨other, hother, rfl⟩ := (hattrs name v).mp hv
    rw [hroute other (Dict.contains_of_get? hother)] at hname
    exact (Prod.mk.inj hname).2 ▸ hother
  · intro hv
    refine ⟨spell key, (hattrs _ v).mpr ⟨key, hv, rfl⟩, hroute key (Dict.contains_of_get? hv), ?_⟩
    intro name w hw hname
    obtain ⟨other, hother, rfl⟩ := (hattrs name w).mp hw
    rw [hroute other (Dict.contains_of_get? hother)] at hname
    exact le_of_eq (congrArg spell (Prod.mk.inj hname).2)

end Schema

namespace Listing

inductive Offers {σ : Type} (t : Session σ) (l : Listing) (c : Conversation σ) (o : Dict Value) : Prop
  | here {rest : List (Dict Value)} (h : records l.buffer = o :: rest)
  | ahead {response : Response} {c' : Conversation σ} {rest : List (Dict Value)}
      (hdry : records l.buffer = []) (hmore : l.wantsPage = true)
      (hpage : t.request l.pageRequest c = (.ok response, c'))
      (h : pageRecords l.schema response = o :: rest)

theorem pull_of_offers {σ : Type} {t : Session σ} {l : Listing} {c : Conversation σ} {o : Dict Value}
    (h : l.Offers t c o) : ∃ l' c', l.pull t c = (.ok (some (l.item o, l')), c') := by
  cases h with
  | here h =>
      obtain ⟨items, -, hpop⟩ := pop?_eq_some h
      exact ⟨_, _, pull_of_pop? hpop⟩
  | @ahead response c' rest hdry hmore hpage h =>
      obtain ⟨items, -, hpop⟩ := pop?_eq_some (l := l.turnPage response) h
      have hpull := pull_of_page (pop?_eq_none hdry) hmore hpage
      rw [hpop] at hpull
      exact ⟨_, c', hpull⟩

end Listing

namespace Resource

structure Mirrors (r : Resource) (s : Schema) (o : Dict Value) : Prop where
  schema : r.schema = s
  body : r.body.values = o
  clean : ∀ location, (r.component location).dirty = .empty

variable {s : Schema} {f g : Field} {o attrs : Dict Value} {r r' : Resource} {id : String}
  {response : Response}

theorem mirrors_existing (h : s.gather .body attrs = o) : (existing s attrs).Mirrors s o where
  schema := rfl
  body := h
  clean location := by cases location <;> rfl

theorem mirrors_item {l : Listing} (h : l.schema = s) : (l.item o).Mirrors s o where
  schema := h
  body := rfl
  clean location := by cases location <;> rfl

theorem mirrors_fetched (hf : s.field? "id" = some f) (ho : s.Records f o)
    (hreply : s.Describes response (.ofDict o)) :
    ((withId s id).absorb .fetch response).Mirrors s o where
  schema := rfl
  body := by
    have hvalues : ((withId s id).absorb .fetch response).body.values =
        (withId s id).body.values.overlay (.ofList o.entries) := values_absorbBody hreply
    rw [hvalues, Dict.ofList_entries]
    refine Dict.ext_get? fun key => ?_
    rw [Dict.get?_overlay]
    cases hkey : o.get? key with
    | some v => rfl
    | none =>
        -- all that a stand-in knows of the body is the id, and the record has that itself
        refine Option.eq_none_iff_forall_ne_some.mpr fun v hv => ?_
        obtain ⟨name, hname, hroute, -⟩ := Schema.get?_gather.mp hv
        have hid : name = "id" := by
          simpa using List.mem_map_of_mem (f := Prod.fst) (Dict.mem_of_get?_ofList hname)
        rw [hid, Schema.route_of_field? hf] at hroute
        obtain ⟨text, htext⟩ := ho.id
        rw [(Prod.mk.inj hroute).2, hkey] at htext
        simp at htext
  clean location := by
    cases location with
    | body => exact dirty_absorbBody (withId s id) response
    | header => rfl
    | uri => rfl

theorem tryGet_of_mirrors (hs : FieldTable.Distinct s.fields) (hg : g ∈ s.fields)
    (hbody : g.location = .body) (h : r.Mirrors s o) : r.tryGet g.name = g.read (o.get? g.wire) := by
  have hfield : r.schema.field? g.name = some g := h.schema ▸ Schema.field?_of_mem hs hg
  rw [tryGet_of_field hfield, stored?, hbody, ← h.body]
  rfl

theorem getText?_of_mirrors (hs : FieldTable.Distinct s.fields) (hg : g ∈ s.fields)
    (hbody : g.location = .body) (h : r.Mirrors s o) (h' : r'.Mirrors s o) :
    r.getText? g.name = r'.getText? g.name := by
  rw [getText?, getText?, get, get, tryGet_of_mirrors hs hg hbody h, tryGet_of_mirrors hs hg hbody h']

theorem id?_of_mirrors (hs : FieldTable.Distinct s.fields) (hf : s.field? "id" = some f)
    (hbody : f.location = .body) {text : String} (htext : o.get? f.wire = some (.text text))
    (hid : (∃ v, f.read (some (.text text)) = .ok v) ∨
      ∀ g, s.alternateId? = some g → g.location = .body)
    (h : r.Mirrors s o) (h' : r'.Mirrors s o) : r.id? = r'.id? := by
  obtain ⟨hmem, hname⟩ := Schema.mem_of_field? hf
  have hown : r.getText? "id" = r'.getText? "id" := hname ▸ getText?_of_mirrors hs hmem hbody h h'
  cases ht : r.getText? "id" with
  | some own => rw [id?_of_own ht, id?_of_own (hown ▸ ht)]
  | none =>
      rw [id?_of_alternate ht, id?_of_alternate (hown ▸ ht), h.schema, h'.schema]
      cases halt : s.alternateId? with
      | none => rfl
      | some g =>
          rcases hid with ⟨v, hv⟩ | hid
          · have hread : r.tryGet "id" = .ok v := by
              rw [← hname, tryGet_of_mirrors hs hmem hbody h, htext, hv]
            rw [getText?, get, hread, Value.plainText?_eq_none_iff] at ht
            exact absurd ht (Field.readPresent_ne_null hv (by simp))
          · exact getText?_of_mirrors hs (List.mem_of_find?_eq_some halt) (hid g halt) h h'

structure Agree (s : Schema) (f : Field) (o : Dict Value) : Prop where
  byWireNames : (existing s o).Mirrors s o
  byClientNames : (existing s (s.clientView o)).Mirrors s o
  listed : ∀ (σ : Type) (t : Session σ) (l : Listing) (c : Conversation σ), l.schema = s →
    l.Offers t c o → ∃ item l' c', l.pull t c = (.ok (some (item, l')), c') ∧ item.Mirrors s o
  fetched : ∀ (σ : Type) (t : Session σ) (c c' : Conversation σ) (id : String) (q : Request)
    (response : Response), (withId s id).plan .fetch = .ok (some q) →
    t.request q c = (.ok response, c') → s.Describes response (.ofDict o) →
    ∃ r', (withId s id).settle t .fetch c = ((.ok (), r'), c') ∧ r'.Mirrors s o
  read : ∀ r r' : Resource, r.Mirrors s o → r'.Mirrors s o → ∀ g ∈ s.fields, g.location = .body →
    r.tryGet g.name = r'.tryGet g.name
  id : ∀ text, o.get? f.wire = some (.text text) →
    ((∃ v, f.read (some (.text text)) = .ok v) ∨
      ∀ g, s.alternateId? = some g → g.location = .body) →
    ∀ r r' : Resource, r.Mirrors s o → r'.Mirrors s o → r.id? = r'.id?

theorem agree_of_records (hs : s.Unambiguous) (hf : s.field? "id" = some f) (hbody : f.location = .body)
    (ho : s.Records f o) : Agree s f o where
  byWireNames := mirrors_existing (Schema.gather_of_spelling (fun key => key)
    (fun _ hkey => (Schema.route_of_records hs ho hkey).1) fun name v => by simp)
  byClientNames := mirrors_existing (Schema.gather_of_spelling s.clientName
    (fun _ hkey => (Schema.route_of_records hs ho hkey).2) fun _ _ => Schema.get?_clientView hs ho)
  listed σ t l c hl hoffers := by
    obtain ⟨l', c', hpull⟩ := Listing.pull_of_offers hoffers
    exact ⟨_, l', c', hpull, mirrors_item hl⟩
  fetched σ t c c' id q response hplan hanswer hreply :=
    ⟨_, settle_of_answer hplan hanswer, mirrors_fetched hf ho hreply⟩
  read r r' h h' g hg hgbody := by
    rw [tryGet_of_mirrors hs.names hg hgbody h, tryGet_of_mirrors hs.names hg hgbody h']
  id text htext hid r r' h h' := id?_of_mirrors hs.names hf hbody htext hid h h'

def drawers : Schema :=
  { kind := "lab.drawer", service := "lab", basePath := "/drawers", resourceKey := some "drawer"
    fields := FieldTable.base ++
      [{ name := "is_open", wire := "open", coercion := some (.format .boolText) }] }

def drawerId : Field := { name := "id" }

def drawer : Dict Value :=
  .ofList [("colour", .text "red"), ("id", .text "d1"), ("open", .text "yes")]

theorem records_drawer : drawers.Records drawerId drawer where
  keys key h := by
    have hkeys : drawer.keys = ["colour", "id", "open"] := by cbv
    have hkey : key = "colour" ∨ key = "id" ∨ key = "open" := by
      simpa [hkeys] using Dict.mem_keys_iff.mpr h
    rcases hkey with rfl | rfl | rfl
    · exact .inl (by decide)
    · exact .inr ⟨drawerId, by decide, rfl, rfl⟩
    · exact .inr ⟨_, List.mem_of_getLast? (by rfl), rfl, rfl⟩
  id := ⟨"d1", by cbv⟩

theorem unambiguous_drawers : drawers.Unambiguous := ⟨by decide, by decide, by decide⟩

theorem agree_of_drawer : drawers.Unambiguous ∧ drawers.field? "id" = some drawerId ∧
    drawerId.location = .body ∧ drawers.Records drawerId drawer ∧ Agree drawers drawerId drawer :=
  ⟨unambiguous_drawers, by decide, rfl, records_drawer,
    agree_of_records unambiguous_drawers (by decide) rfl records_drawer⟩

def IdsAgree (s : Schema) (o : Dict Value) : Prop :=
  ∀ (σ : Type) (t : Session σ) (l l' : Listing) (c c' : Conversation σ) (item : Resource),
    l.schema = s → l.Offers t c o → l.pull t c = (.ok (some (item, l')), c') →
    item.id? = (existing s o).id?

def pages : Schema :=
  { kind := "lab.page", service := "lab", basePath := "/pages"
    fields := [{ name := "id", coercion := some .integer }, { name := "name" },
      { name := "slug", location := .uri, alternateId := true }] }

def pageId : Field := { name := "id", coercion := some .integer }

def page : Dict Value := .ofList [("id", .text "abc")]

def slugListing : Listing :=
  { schema := pages, path := "/pages", filters := [], uri := .ofList [("slug", .text "s1")]
    paginated := true, limit := none, marker := none }

def pageTalk : Conversation (List Reply) :=
  { peer := [.success { status := 200, body := some (.list [.ofDict page]) }] }

theorem records_page : pages.Records pageId page where
  keys key h := by
    have hkeys : page.keys = ["id"] := by cbv
    obtain rfl : key = "id" := by simpa [hkeys] using Dict.mem_keys_iff.mpr h
    exact .inr ⟨pageId, by decide, rfl, rfl⟩
  id := ⟨"abc", by cbv⟩

theorem listed_page_goes_by_its_slug :
    pages.Unambiguous ∧ pages.field? "id" = some pageId ∧ pageId.location = .body ∧
    pages.Records pageId page ∧
    Listing.start pages (.ofList [("slug", .text "s1")]) true = .ok slugListing ∧
    ¬IdsAgree pages page := by
  refine ⟨⟨by decide, by decide, by decide⟩, by decide, rfl, records_page, ?_, fun h => ?_⟩
  · cbv
  have hpage : Listing.pageRecords pages { status := 200, body := some (.list [.ofDict page]) } =
      [page] := Listing.records_ofDict [page]
  have hoffers : slugListing.Offers .replay pageTalk page := .ahead rfl rfl rfl hpage
  obtain ⟨l', c', hpull⟩ := Listing.pull_of_offers hoffers
  have hlisted : (slugListing.item page).id? = some "s1" := by decide +kernel
  have hgiven : (existing pages page).id? = none := by decide +kernel
  have hsame := h _ _ _ _ _ _ _ rfl hoffers hpull
  rw [hlisted, hgiven] at hsame
  simp at hsame

end Resource

end ControlPlane
