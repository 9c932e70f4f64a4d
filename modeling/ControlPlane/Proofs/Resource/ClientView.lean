import ControlPlane.Proofs.Attribute.Reading
import ControlPlane.Proofs.Resource.Construction
import ControlPlane.Proofs.Resource.ReadBack

namespace ControlPlane

def FieldTable.Apart (table : List Field) : Prop := (table.map fun f => (f.location, f.wire)).Nodup

instance {table : List Field} : Decidable (FieldTable.Apart table) :=
  inferInstanceAs (Decidable (table.map fun f => (f.location, f.wire)).Nodup)

theorem FieldTable.eq_of_place {table : List Field} (h : Apart table) {f g : Field} (hf : f ∈ table)
    (hg : g ∈ table) (hplace : (f.location, f.wire) = (g.location, g.wire)) : f = g :=
  List.inj_on_of_nodup_map h hf hg hplace

namespace Resource

variable {r : Resource} {f : Field} {name : String} {v : Value}

theorem get_of_tryGet (h : r.tryGet name = .ok v) : r.get name = v := by
  rw [get, h]

theorem readPresent_get (hf : r.schema.field? name = some f)
    (ht : f.coercion ≠ some (.format .timestamp)) (hstored : r.stored? f ≠ none) :
    f.readPresent (r.get name) = .ok (r.get name) := by
  obtain ⟨stored, hs⟩ := Option.ne_none_iff_exists'.mp hstored
  have htry : r.tryGet name = f.readPresent stored := by
    rw [tryGet_of_field hf, hs]
    rfl
  cases hread : f.readPresent stored with
  | error e =>
      -- what cannot be read is shown as null, and null reads as itself
      have hnull : r.get name = .null := by rw [get, htry, hread]
      rw [hnull, Field.readPresent_null]
  | ok w => rw [get_of_tryGet (htry.trans hread), Field.readPresent_again ht hread]

theorem get?_toDict : r.toDict.get? name = some v ↔
    ∃ f ∈ r.schema.fields, f.name = name ∧ r.stored? f ≠ none ∧ r.get name = v := by
  have hmem : ∀ u, (name, u) ∈ (r.schema.fields.filter fun f =>
      (r.component f.location).contains f.wire).map (fun f => (f.name, r.get f.name)) ↔
      ∃ f ∈ r.schema.fields, f.name = name ∧ r.stored? f ≠ none ∧ r.get name = u := by
    intro u
    have hpresent : ∀ f, (r.component f.location).contains f.wire = true ↔ r.stored? f ≠ none := by
      intro f
      rw [Component.contains, Dict.contains_eq_isSome, Option.isSome_iff_ne_none]
      rfl
    simp only [List.mem_map, List.mem_filter, hpresent, Prod.mk.injEq]
    constructor
    · rintro ⟨f, ⟨hf, hstored⟩, rfl, rfl⟩
      exact ⟨f, hf, rfl, hstored, rfl⟩
    · rintro ⟨f, hf, rfl, hstored, rfl⟩
      exact ⟨f, ⟨hf, hstored⟩, rfl, rfl⟩
  rw [← hmem]
  refine Dict.get?_ofList_iff fun u w hu hw => ?_
  obtain ⟨-, -, -, -, rfl⟩ := (hmem u).mp hu
  obtain ⟨-, -, -, -, rfl⟩ := (hmem w).mp hw
  rfl

theorem stored?_existing (hd : FieldTable.Distinct r.schema.fields)
    (hp : FieldTable.Apart r.schema.fields) (hf : f ∈ r.schema.fields) :
    (existing r.schema r.toDict).stored? f = r.toDict.get? f.name := by
  have hroute := Schema.route_of_field? (Schema.field?_of_mem hd hf)
  rw [existing, stored?_build]
  refine Schema.get?_gather_of_sole hroute fun other hother hplace => ?_
  obtain ⟨w, hw⟩ := Dict.contains_iff.mp hother
  obtain ⟨g, hg, rfl, -, -⟩ := get?_toDict.mp hw
  rw [Schema.route_of_field? (Schema.field?_of_mem hd hg)] at hplace
  rw [FieldTable.eq_of_place hp hg hf hplace]

theorem get_existing (hd : FieldTable.Distinct r.schema.fields)
    (hp : FieldTable.Apart r.schema.fields) (hf : f ∈ r.schema.fields)
    (ht : f.coercion ≠ some (.format .timestamp)) (hstored : r.stored? f ≠ none) :
    (existing r.schema r.toDict).get f.name = r.get f.name := by
  have hfield := Schema.field?_of_mem hd hf
  have hview : r.toDict.get? f.name = some (r.get f.name) :=
    get?_toDict.mpr ⟨f, hf, rfl, hstored, rfl⟩
  have htry : (existing r.schema r.toDict).tryGet f.name =
      f.read ((existing r.schema r.toDict).stored? f) := tryGet_of_field hfield
  rw [stored?_existing hd hp hf, hview] at htry
  exact get_of_tryGet (htry.trans (readPresent_get hfield ht hstored))

theorem stored?_existing_ne_none (hd : FieldTable.Distinct r.schema.fields)
    (hp : FieldTable.Apart r.schema.fields) (hf : f ∈ r.schema.fields) :
    (existing r.schema r.toDict).stored? f ≠ none ↔ r.stored? f ≠ none := by
  rw [stored?_existing hd hp hf, Option.ne_none_iff_exists']
  constructor
  · rintro ⟨v, hv⟩
    obtain ⟨g, hg, hname, hstored, -⟩ := get?_toDict.mp hv
    have hsame : some g = some f := by
      rw [← Schema.field?_of_mem hd hg, hname, Schema.field?_of_mem hd hf]
    rwa [← Option.some.inj hsame]
  · exact fun hstored => ⟨_, get?_toDict.mpr ⟨f, hf, rfl, hstored, rfl⟩⟩

theorem toDict_existing_toDict (hd : FieldTable.Distinct r.schema.fields)
    (hp : FieldTable.Apart r.schema.fields)
    (ht : ∀ f ∈ r.schema.fields, f.coercion ≠ some (.format .timestamp)) :
    (existing r.schema r.toDict).toDict = r.toDict := by
  refine Dict.ext_get? fun name => Option.ext fun v => get?_toDict.trans (.trans ?_ get?_toDict.symm)
  refine exists_congr fun f => and_congr_right fun hf => and_congr_right fun hname => ?_
  subst hname
  rw [stored?_existing_ne_none hd hp hf]
  exact and_congr_right fun hstored => by rw [get_existing hd hp hf (ht f hf) hstored]

theorem client_view_is_fixpoint (hd : FieldTable.Distinct r.schema.fields)
    (hp : FieldTable.Apart r.schema.fields)
    (ht : ∀ f ∈ r.schema.fields, f.coercion ≠ some (.format .timestamp)) :
    (∀ name v, r.toDict.get? name = some v ↔
      ∃ f ∈ r.schema.fields, f.name = name ∧ r.stored? f ≠ none ∧ r.get name = v) ∧
    (existing r.schema r.toDict).toDict = r.toDict ∧
    ∀ (f : Field) (v w : Value), f.coercion ≠ some (.format .timestamp) →
      f.read (some v) = .ok w → f.read (some w) = .ok w :=
  ⟨fun _ _ => get?_toDict, toDict_existing_toDict hd hp ht, fun _ _ _ => Field.readPresent_again⟩

def sensors : Schema :=
  { kind := "lab.sensor", service := "lab", basePath := "/sensors"
    fields := FieldTable.base ++
      [{ name := "count", wire := "n", coercion := some .integer, fallback := .integer 1 },
        { name := "is_on", wire := "on", coercion := some (.format .boolText) },
        { name := "tag", wire := "n", location := .header }] }

def sensor : Resource :=
  { schema := sensors
    body := { values := .ofList [("n", .text "many"), ("on", .text "yes"), ("spare", .null)] }
    header := { values := .ofList [("n", .text "t1")], dirty := .ofList [("n", ())] } }

theorem sensor_view_is_fixpoint :
    FieldTable.Distinct sensor.schema.fields ∧ FieldTable.Apart sensor.schema.fields ∧
    (∀ f ∈ sensor.schema.fields, f.coercion ≠ some (.format .timestamp)) ∧
    (existing sensor.schema sensor.toDict).toDict = sensor.toDict ∧
    sensor.toDict = .ofList [("count", .null), ("is_on", .bool true), ("tag", .text "t1")] :=
  have hd : FieldTable.Distinct sensor.schema.fields := by decide
  have hp : FieldTable.Apart sensor.schema.fields := by decide
  have ht : ∀ f ∈ sensor.schema.fields, f.coercion ≠ some (.format .timestamp) := by decide
  ⟨hd, hp, ht, (client_view_is_fixpoint hd hp ht).2.1, by decide +kernel⟩

end Resource

end ControlPlane
