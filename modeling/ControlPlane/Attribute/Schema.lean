import ControlPlane.Attribute.Field
import ControlPlane.Attribute.Query

namespace ControlPlane

inductive Capability where
  | create
  | fetch
  | commit
  | delete
  | list
  | head
  deriving DecidableEq, Repr

namespace Capability

def all : List Capability := [.create, .fetch, .commit, .delete, .list, .head]

def name : Capability → String
  | .create => "create"
  | .fetch => "fetch"
  | .commit => "commit"
  | .delete => "delete"
  | .list => "list"
  | .head => "head"

def crud : List Capability := [.create, .fetch, .commit, .delete, .list]

def readOnly : List Capability := [.fetch, .list]

end Capability

inductive UpdateStyle where
  | put
  | patchMerge
  | patchJson
  deriving DecidableEq, Repr

namespace FieldTable

-- A field takes the place of the one with its name, or the last place.
def place (f : Field) : List Field → List Field
  | [] => [f]
  | g :: rest => if g.name = f.name then f :: rest else g :: place f rest

def merge (table declared : List Field) : List Field :=
  declared.foldl (fun table f => place f table) table

def base : List Field := [{ name := "id" }, { name := "name" }]

def alternates (table : List Field) : List Field := table.filter (·.alternateId)

end FieldTable

structure Schema where
  kind : String
  service : String
  basePath : String
  resourceKey : Option String := none
  resourcesKey : Option String := none
  allow : List Capability := Capability.crud
  updateStyle : UpdateStyle := .put
  microversion : Option String := none
  retriable : List Nat := []
  query : QueryMapping := .ofNames []
  fields : List Field := FieldTable.base
  deriving DecidableEq, Repr

structure AmbiguousId where
  kind : String
  count : Nat
  deriving DecidableEq, Repr

def AmbiguousId.message (a : AmbiguousId) : String :=
  a.kind ++ " declares " ++ toString a.count ++ " alternate id fields, at most one is allowed"

namespace Schema

def declare (s : Schema) (declared : List Field) : Except AmbiguousId Schema :=
  let table := FieldTable.merge s.fields declared
  let count := (FieldTable.alternates table).length
  if count ≤ 1 then .ok { s with fields := table } else .error ⟨s.kind, count⟩

def field? (s : Schema) (name : String) : Option Field := s.fields.find? (·.name == name)

def lookup? (s : Schema) (name : String) : Option Field :=
  (s.field? name).or (s.fields.find? (·.wire == name))

def alternateId? (s : Schema) : Option Field := s.fields.find? (·.alternateId)

def fieldsIn (s : Schema) (location : Location) : List Field :=
  s.fields.filter (·.location == location)

def uriField? (s : Schema) (name : String) : Option Field :=
  (s.field? name).filter (·.location == .uri)

def permits (s : Schema) (c : Capability) : Bool := s.allow.contains c

end Schema

end ControlPlane
