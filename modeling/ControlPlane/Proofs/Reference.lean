import Mathlib
import ControlPlane.Proofs.Resource.Construction
import ControlPlane.Proofs.Resource.Operation
import ControlPlane.Proofs.Resource.ReadBack
import ControlPlane.Proofs.Text.Percent
import ControlPlane.Reference

namespace ControlPlane

theorem itemPath_inj {collection id id' : String} :
    itemPath collection id = itemPath collection id' ↔ id = id' := by
  constructor
  · intro h
    have hlists := congrArg String.toList h
    simp only [itemPath, String.toList_append, List.append_assoc, List.append_cancel_left_eq] at hlists
    exact Text.percentEncode_injective (String.toList_inj.mp hlists)
  · rintro rfl
    rfl

namespace Field

def HoldsText (f : Field) : Prop := f.coercion = none ∨ f.coercion = some .string

variable {f : Field} {text : String}

theorem write_text (h : f.HoldsText) : f.write (.text text) = .ok (.text text) := by
  rcases h with h | h
  · rw [write, h]
  · rw [write, h]
    dsimp only
    split <;> rfl

theorem readPresent_text (h : f.HoldsText) : f.readPresent (.text text) = .ok (.text text) := by
  rcases h with h | h
  · rw [readPresent, h]
  · rw [readPresent, h]
    rfl

end Field

def Schema.place (s : Schema) (name : String) : Location × String :=
  match s.field? name with
  | some f => (f.location, f.wire)
  | none => (.body, name)

def Schema.Spares (s : Schema) (attrs : Dict Value) (name : String) : Prop :=
  ∀ key, attrs.contains key = true → s.route key ≠ s.place name

def Schema.Gives (s : Schema) (attrs : Dict Value) (name text : String) : Prop :=
  ∃ f key earlier later, s.field? name = some f ∧ f.HoldsText ∧ s.lookup? key = some f ∧
    attrs.entries = earlier ++ (key, .text text) :: later ∧
    ∀ e ∈ later, s.route e.1 ≠ s.place name

namespace Resource

variable {r r' : Resource} {attrs : Dict Value} {name text : String}

theorem tryGet_congr (hs : r'.schema = r.schema)
    (h : (r'.component (r.schema.place name).1).get? (r.schema.place name).2 =
      (r.component (r.schema.place name).1).get? (r.schema.place name).2) :
    r'.tryGet name = r.tryGet name := by
  rw [tryGet, tryGet, hs]
  rw [Schema.place] at h
  cases hf : r.schema.field? name with
  | some f =>
      simp only [hf] at h
      simp only [stored?, h]
  | none =>
      simp only [hf, component] at h
      simp only [h]

theorem getText?_of_stored {f : Field} (hf : r.schema.field? name = some f) (htext : f.HoldsText)
    (h : r.stored? f = some (.text text)) : r.getText? name = some text := by
  rw [getText?, get, tryGet_of_field hf, h, Field.read, Field.readPresent_text htext]
  rfl

theorem edits_of_update (h : r.update attrs = (.ok (), r')) :
    r.edits (attrs.entries.map fun e => .set e.1 e.2) = .ok r' := assign_eq_ok h

theorem name_of_mem_sets {P : String → Prop} (hP : ∀ key, attrs.contains key = true → P key) {e : Edit}
    (he : e ∈ attrs.entries.map fun e => Edit.set e.1 e.2) : P e.name := by
  obtain ⟨⟨key, value⟩, hmem, rfl⟩ := List.mem_map.mp he
  exact hP key (Dict.contains_of_get? (Dict.mem_entries_iff.mp hmem))

theorem getText?_of_spares (h : r.update attrs = (.ok (), r')) (hspares : r.schema.Spares attrs name) :
    r'.getText? name = r.getText? name := by
  have hedits := edits_of_update h
  have hget := get?_edits_elsewhere hedits fun _ => name_of_mem_sets hspares
  rw [getText?, getText?, get, get, tryGet_congr (schema_edits hedits) hget]

theorem uri_of_update (h : r.update attrs = (.ok (), r'))
    (hpath : ∀ key, attrs.contains key = true → (r.schema.route key).1 ≠ .uri) : r'.uri = r.uri :=
  component_edits_elsewhere (edits_of_update h) fun _ =>
    name_of_mem_sets (P := fun key => (r.schema.route key).1 ≠ .uri) hpath

theorem getText?_of_gives (h : r.update attrs = (.ok (), r')) (hgives : r.schema.Gives attrs name text) :
    r'.getText? name = some text := by
  obtain ⟨f, key, earlier, later, hf, htext, hkey, hsplit, hlater⟩ := hgives
  have hplace : r.schema.place name = (f.location, f.wire) := by rw [Schema.place, hf]
  have hedits := edits_of_update h
  rw [hsplit, List.map_append, List.map_cons] at hedits
  have hothers : ∀ e ∈ later.map fun e => Edit.set e.1 e.2,
      r.schema.route e.name ≠ (f.location, f.wire) := by
    intro e he
    obtain ⟨pair, hmem, rfl⟩ := List.mem_map.mp he
    rw [← hplace]
    exact hlater pair hmem
  have hstored := stored_of_last_set hkey (Field.write_text htext) hedits hothers
  exact getText?_of_stored (by rw [schema_edits hedits, hf]) htext hstored

theorem id?_of_own {id : String} (h : r.getText? "id" = some id) : r.id? = some id := by
  rw [id?, h]

theorem id?_of_alternate (h : r.getText? "id" = none) :
    r.id? = r.schema.alternateId?.bind fun f => r.getText? f.name := by
  rw [id?, h]

theorem id?_withId {s : Schema} {f : Field} {id : String} (hf : s.field? "id" = some f)
    (htext : f.HoldsText) : (withId s id).id? = some id := by
  have hlookup : s.lookup? "id" = some f := Schema.lookup?_of_field? hf
  have hentries : (Dict.ofList [("id", Value.text id)]).entries = [("id", .text id)] := rfl
  have hstored : (withId s id).stored? f = some (.text id) := by
    rw [withId, existing, stored?_build, Schema.gather, Dict.get?_ofList, hentries]
    simp [route_eq hlookup]
  exact id?_of_own (getText?_of_stored hf htext hstored)

structure AimsAt (r : Resource) (attrs : Dict Value) (id : String) (r' : Resource)
    (collection id' : String) : Prop where
  place : r.schema.collectionPath r'.uri.values = .ok collection
  named : r'.id? = some id'
  meant_iff : itemPath collection id' = itemPath collection id ↔ id' = id
  stays : (∀ key, attrs.contains key = true → (r.schema.route key).1 ≠ .uri) →
    r.schema.collectionPath r.uri.values = .ok collection
  spared : r.getText? "id" = some id → r.schema.Spares attrs "id" → id' = id
  given : ∀ text, r.schema.Gives attrs "id" text → id' = text
  sparedAlternate : r.getText? "id" = none → r.schema.Spares attrs "id" →
    (∀ f, r.schema.alternateId? = some f → r.schema.Spares attrs f.name) → id' = id
  givenAlternate : r.getText? "id" = none → r.schema.Spares attrs "id" → ∀ f text,
    r.schema.alternateId? = some f → r.schema.Gives attrs f.name text → id' = text

theorem aimsAt_of_update {id collection id' : String} (h : r.update attrs = (.ok (), r'))
    (hid : r.id? = some id) (hplace : r.schema.collectionPath r'.uri.values = .ok collection)
    (hid' : r'.id? = some id') : AimsAt r attrs id r' collection id' := by
  have hschema : r'.schema = r.schema := schema_edits (edits_of_update h)
  have hfound : ∀ {text}, r'.id? = some text → id' = text := fun ht =>
    Option.some.inj (hid'.symm.trans ht)
  exact {
    place := hplace
    named := hid'
    meant_iff := itemPath_inj
    stays := fun hpath => uri_of_update h hpath ▸ hplace
    spared := fun hown hs => hfound (id?_of_own ((getText?_of_spares h hs).trans hown))
    given := fun text hg => hfound (id?_of_own (getText?_of_gives h hg))
    sparedAlternate := fun hnone hs halt => by
      refine hfound ?_
      rw [id?_of_alternate ((getText?_of_spares h hs).trans hnone), hschema, ← hid,
        id?_of_alternate hnone]
      cases hf : r.schema.alternateId? with
      | none => rfl
      | some f => exact getText?_of_spares h (halt f hf)
    givenAlternate := fun hnone hs f text hf hg => by
      refine hfound ?_
      rw [id?_of_alternate ((getText?_of_spares h hs).trans hnone), hschema, hf]
      exact getText?_of_gives h hg }

end Resource

namespace Reference

open Resource (AimsAt)

variable {σ : Type} {schema : Schema} {ref : Reference} {r : Resource} {id : String}

inductive StandsFor (schema : Schema) : Reference → Resource → Prop where
  | byId (id : String) : StandsFor schema (.byId id) (.withId schema id)
  | known (r : Resource) : StandsFor schema (.known r) r
  | untyped (r : Resource) (h : r.kind = schema.kind) : StandsFor schema (.untyped r) r

theorem resolve_of_standsFor (h : ref.StandsFor schema r) (attrs : Dict Value) :
    ref.resolve schema attrs = Settled.toResource (r.update attrs) := by
  cases h with
  | byId id => rfl
  | known r => rfl
  | untyped r h =>
      rw [resolve, base, if_pos h]
      · rfl
      · simp

theorem id_of_byId {i : String} {f : Field} (h : StandsFor schema (.byId i) r) (hid : r.id? = some id)
    (hf : schema.field? "id" = some f) (htext : f.HoldsText) : id = i := by
  cases h with
  | byId i => exact Option.some.inj (hid.symm.trans (Resource.id?_withId hf htext))

theorem resolve_eq_ok {r' : Resource} {attrs : Dict Value} (h : ref.StandsFor schema r)
    (hresolve : ref.resolve schema attrs = .ok r') : r.update attrs = (.ok (), r') := by
  rw [resolve_of_standsFor h] at hresolve
  rcases hupdate : r.update attrs with ⟨e | _, updated⟩
  · rw [hupdate] at hresolve
    simp [Settled.toResource] at hresolve
  · rw [hupdate] at hresolve
    rw [← Except.ok.inj hresolve]

structure Aims (s : Session σ) (schema : Schema) (ref : Reference) (attrs : Dict Value)
    (c : Conversation σ) (r : Resource) (id : String) : Prop where
  meant : ∀ i f, ref = .byId i → schema.field? "id" = some f → f.HoldsText → id = i
  silent : (∀ r', ref.resolve schema attrs = .ok r' → ¬r'.Ready .commit) →
    (ref.update s schema attrs c).2 = c
  asks : ∀ r', ref.resolve schema attrs = .ok r' → r'.Ready .commit →
    ∃ collection id', AimsAt r attrs id r' collection id' ∧ (ref.update s schema attrs c).2 =
      (s.request (r'.requestTo .commit (itemPath collection id')) c).2

theorem update_aims (h : ref.StandsFor schema r) (hid : r.id? = some id) (attrs : Dict Value)
    (s : Session σ) (c : Conversation σ) : Aims s schema ref attrs c r id where
  meant i f href hf htext := id_of_byId (href ▸ h) hid hf htext
  silent hnone := by
    rw [update, withResource]
    cases hresolve : ref.resolve schema attrs with
    | error e => rfl
    | ok r' => exact Resource.perform_of_not_ready (hnone r' hresolve)
  asks r' hresolve hready := by
    have hupdate := resolve_eq_ok h hresolve
    have hschema : r'.schema = r.schema := Resource.schema_edits (Resource.edits_of_update hupdate)
    obtain ⟨collection, hcollection, -, hitem⟩ := Resource.path_of_located hready.located
    obtain ⟨id', hid'⟩ := Option.ne_none_iff_exists'.mp (hready.named (by simp))
    rw [Resource.path_collection, hschema] at hcollection
    refine ⟨collection, id', Resource.aimsAt_of_update hupdate hid hcollection hid', ?_⟩
    rw [update, withResource, hresolve]
    exact Resource.perform_of_ready hready (hitem id' hid')

def lamps : Schema := { kind := "lab.lamp", service := "lab", basePath := "/lamps" }

def lampAttrs : Dict Value := .ofList [("id", .text "b"), ("name", .text "x")]

def lampTalk : Conversation (List Reply) := { peer := [.success { status := 200 }] }

theorem update_lamp_aims :
    StandsFor lamps (.byId "a") (.withId lamps "a") ∧ (Resource.withId lamps "a").id? = some "a" ∧
      Aims .replay lamps (.byId "a") lampAttrs lampTalk (.withId lamps "a") "a" :=
  have hid : (Resource.withId lamps "a").id? = some "a" := by cbv
  ⟨.byId "a", hid, update_aims (.byId "a") hid lampAttrs .replay lampTalk⟩

theorem update_lamp_reaches_another :
    (Resource.withId lamps "a").id? = some "a" ∧
      (update .replay lamps (.byId "a") lampAttrs lampTalk).2.sent.map (·.request.url) =
        [itemPath "/lamps" "b"] ∧
      itemPath "/lamps" "b" ≠ itemPath "/lamps" "a" :=
  ⟨by cbv, by cbv, fun h => absurd (itemPath_inj.mp h) (by decide)⟩

end Reference

end ControlPlane
