import ControlPlane.Command.Run
import ControlPlane.Proofs.Attribute.Filling
import ControlPlane.Proofs.Command.Line
import ControlPlane.Proofs.Data.Dict

namespace ControlPlane

variable {kind name : String} {s : Schema} {f : Field}

theorem mem_registry_of_lookupKind (h : lookupKind kind = .ok s) :
    ∃ e ∈ Registry.entries, e.schema = s ∧ s.kind = kind := by
  rw [lookupKind] at h
  split at h
  · rename_i e he
    rw [Registry.find?, Registry.table, Dict.get?_ofList] at he
    obtain ⟨⟨key, e'⟩, hlast, rfl⟩ := Option.map_eq_some_iff.mp he
    obtain ⟨hmem, hkey⟩ := List.mem_filter.mp (List.mem_of_getLast? hlast)
    obtain ⟨e'', hin, heq⟩ := List.mem_map.mp hmem
    obtain ⟨rfl, rfl⟩ := Prod.mk.inj heq
    obtain rfl := Except.ok.inj h
    exact ⟨e'', hin, rfl, eq_of_beq hkey⟩
  · simp at h

theorem Schema.mem_of_uriField? (h : s.uriField? name = some f) :
    f ∈ s.fields ∧ f.name = name ∧ f.location = .uri := by
  obtain ⟨hfind, hlocation⟩ := Option.filter_eq_some_iff.mp h
  exact ⟨List.mem_of_find?_eq_some hfind, by simpa using List.find?_some hfind, eq_of_beq hlocation⟩

theorem registry_spoken : ∀ e ∈ Registry.entries, opensWord e.schema.kind = true ∧
    (∀ name ∈ e.schema.query.names.keys, namesFilter name = true) ∧
    ∀ f ∈ e.schema.fields, namesFilter f.name = true := by
  decide +kernel

theorem registry_unprojected : ∀ e ∈ Registry.entries, e.schema.permits .list = true →
    "project_id" ∉ e.schema.slots := by
  decide +kernel

theorem opensWord_of_lookupKind (h : lookupKind kind = .ok s) : opensWord kind = true := by
  obtain ⟨e, he, rfl, rfl⟩ := mem_registry_of_lookupKind h
  exact (registry_spoken e he).1

theorem namesFilter_of_query (h : lookupKind kind = .ok s) {server : String}
    (hname : s.query.names.get? name = some server) : namesFilter name = true := by
  obtain ⟨e, he, rfl, -⟩ := mem_registry_of_lookupKind h
  exact (registry_spoken e he).2.1 name (List.mem_map.mpr ⟨_, Dict.mem_entries_iff.mpr hname, rfl⟩)

theorem namesFilter_of_uriField? (h : lookupKind kind = .ok s) (hf : s.uriField? name = some f) :
    namesFilter name = true := by
  obtain ⟨e, he, rfl, -⟩ := mem_registry_of_lookupKind h
  obtain ⟨hm, rfl, -⟩ := Schema.mem_of_uriField? hf
  exact (registry_spoken e he).2.2 f hm

end ControlPlane
