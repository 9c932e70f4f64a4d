import ControlPlane.Attribute.Component
import ControlPlane.Attribute.Path
import ControlPlane.Session

namespace ControlPlane

structure Resource where
  schema : Schema
  body : Component := {}
  header : Component := {}
  uri : Component := {}
  deriving DecidableEq, Repr

def Schema.route (s : Schema) (key : String) : Location × String :=
  match s.lookup? key with
  | some f => (f.location, f.wire)
  | none => (.body, key)

def Schema.gather (s : Schema) (location : Location) (attrs : Dict Value) : Dict Value :=
  .ofList (attrs.entries.filterMap fun e =>
    let (group, wire) := s.route e.1
    if group = location then some (wire, e.2) else none)

namespace Resource

def build (schema : Schema) (attrs : Dict Value) (synchronized : Bool) : Resource :=
  { schema := schema
    body := .ofValues (schema.gather .body attrs) synchronized
    header := .ofValues (schema.gather .header attrs) synchronized
    uri := .ofValues (schema.gather .uri attrs) synchronized }

def new (schema : Schema) (attrs : Dict Value) : Resource := build schema attrs false

def existing (schema : Schema) (attrs : Dict Value) : Resource := build schema attrs true

def withId (schema : Schema) (id : String) : Resource :=
  existing schema (.ofList [("id", .text id)])

def ofServer (schema : Schema) (body uri : Dict Value) : Resource :=
  { schema := schema, body := .ofValues body true, uri := .ofValues uri true }

def kind (r : Resource) : String := r.schema.kind

def component (r : Resource) : Location → Component
  | .body => r.body
  | .header => r.header
  | .uri => r.uri

def withComponent (r : Resource) (location : Location) (c : Component) : Resource :=
  match location with
  | .body => { r with body := c }
  | .header => { r with header := c }
  | .uri => { r with uri := c }

def stored? (r : Resource) (f : Field) : Option Value := (r.component f.location).get? f.wire

def tryGet (r : Resource) (name : String) : Except Error Value :=
  match r.schema.field? name with
  | some f => f.read (r.stored? f)
  | none => .ok ((r.body.get? name).getD .null)

def get (r : Resource) (name : String) : Value :=
  match r.tryGet name with
  | .ok v => v
  | .error _ => .null

def getText? (r : Resource) (name : String) : Option String := (r.get name).plainText?

def getBool? (r : Resource) (name : String) : Option Bool := (r.get name).bool?

def getInteger? (r : Resource) (name : String) : Option Int := (r.get name).word?

def id? (r : Resource) : Option String :=
  match r.getText? "id" with
  | some id => some id
  | none => r.schema.alternateId?.bind fun f => r.getText? f.name

def name? (r : Resource) : Option String := r.getText? "name"

def noAttribute (r : Resource) (name : String) : Error :=
  .invalidValue (r.kind ++ " has no attribute '" ++ name ++ "'")

def set (r : Resource) (name : String) (value : Value) : Except Error Resource :=
  match r.schema.lookup? name with
  | none => .error (r.noAttribute name)
  | some f =>
      match f.write value with
      | .error e => .error e
      | .ok v => .ok (r.withComponent f.location ((r.component f.location).set f.wire v))

def unset (r : Resource) (name : String) : Except Error Resource :=
  match r.schema.lookup? name with
  | none => .error (r.noAttribute name)
  | some f => .ok (r.withComponent f.location ((r.component f.location).remove f.wire))

def assign (r : Resource) : List (String × Value) → Except Error Unit × Resource
  | [] => (.ok (), r)
  | (name, value) :: rest =>
      match r.set name value with
      | .error e => (.error e, r)
      | .ok r => r.assign rest

def update (r : Resource) (attrs : Dict Value) : Except Error Unit × Resource := r.assign attrs.entries

def isDirty (r : Resource) : Bool := r.body.isDirty || r.header.isDirty

def toDict (r : Resource) : Dict Value :=
  let present := r.schema.fields.filter fun f => (r.component f.location).contains f.wire
  .ofList (present.map fun f => (f.name, r.get f.name))

def idKey (r : Resource) : String :=
  match r.schema.field? "id" with
  | some f => f.wire
  | none => "id"

end Resource

end ControlPlane
