import ControlPlane.Command.Invocation
import ControlPlane.Config.Cloud
import ControlPlane.Json.Printer
import ControlPlane.Registry

namespace ControlPlane

inductive Failure where
  | unknownKind (kind : String)
  | error (e : Error)
  deriving DecidableEq, Repr

def Failure.message : Failure → String
  | .unknownKind kind =>
      "unknown resource type '" ++ kind ++ "', known types: " ++ ", ".intercalate Registry.kinds
  | .error e => e.summary

def lookupKind (kind : String) : Except Failure Schema :=
  match Registry.find? kind with
  | some entry => .ok entry.schema
  | none => .error (.unknownKind kind)

def Resource.render (r : Resource) : Value :=
  match r.id? with
  | some id => .ofDict (r.toDict.insert "id" (.text id))
  | none => .ofDict r.toDict

def printed (v : Value) : String := Json.pretty v ++ "\n"

namespace Command

variable {σ : Type}

abbrev Printed (σ : Type) := Except Failure String × Conversation σ

def ofError {α : Type} (show_ : α → Value) : Except Error α → Except Failure String
  | .ok a => .ok (printed (show_ a))
  | .error e => .error (.error e)

def oneEntry (key value : String) : Value := .ofDict (.ofList [(key, .text value)])

def typeEntry (e : RegistryEntry) : Value :=
  .ofDict (.ofList
    [("type", .text e.schema.kind), ("name", .text e.displayName), ("service", .text e.schema.service)])

def typesText : String := printed (.list (Registry.table.values.map typeEntry))

def projectParams (cloud : CloudConfig) (s : Schema) : List (String × Value) :=
  match cloud.projectId with
  | some project =>
      if (pathPieces none s.basePath.toList).contains (.slot "project_id") then
        [("project_id", .text project)]
      else []
  | none => []

def listParams (cloud : CloudConfig) (s : Schema) (filters : List (String × Value))
    (limit : Option Nat) : Dict Value :=
  .ofList (projectParams cloud s ++ filters ++ (limit.map fun n => ("limit", Value.integer n)).toList)

def runList (s : Session σ) (cloud : CloudConfig) (schema : Schema)
    (filters : List (String × Value)) (limit : Option Nat) (paginated : Bool)
    (c : Conversation σ) : Printed σ :=
  let (result, c) := Listing.all s schema (listParams cloud schema filters limit) paginated c
  (ofError (fun rs => .list (rs.map Resource.render)) result, c)

def runView (s : Session σ) (schema : Schema) (nameOrId : String) (c : Conversation σ) : Printed σ :=
  let (result, c) := Find.find s schema nameOrId false .empty c
  (ofError (fun r => (r.map Resource.render).getD .null) result, c)

def deleted (id : String) (ignoreMissing : Bool) : Except Error Resource → Except Failure String
  | .ok _ => .ok (printed (oneEntry "deleted" id))
  | .error e =>
      if e.isNotFound && ignoreMissing then .ok (printed (oneEntry "missing" id))
      else .error (.error e)

def runDelete (s : Session σ) (schema : Schema) (id : String) (ignoreMissing : Bool)
    (c : Conversation σ) : Printed σ :=
  let (result, c) := (Resource.withId schema id).perform s .delete c
  (deleted id ignoreMissing result, c)

def targetOf (watched status : String) (failures : List String) : Wait.Target :=
  if failures.isEmpty then { name := watched, status := status }
  else { name := watched, status := status, failures := failures }

def waitPolicy (cloud : CloudConfig) (interval timeout : Option Nat) : WaitPolicy :=
  { interval := (interval.map (· * 1000)).getD cloud.interval, timeout := timeout.map (· * 1000) }

def runWait (s : Session σ) (schema : Schema) (id : String) (target : Wait.Target)
    (policy : WaitPolicy) (c : Conversation σ) : Printed σ :=
  let (result, c) := settled (Wait.forAttribute s target policy (.withId schema id) c)
  (ofError Resource.render result, c)

def withKind (kind : String) (go : Schema → Conversation σ → Printed σ) (c : Conversation σ) :
    Printed σ :=
  match lookupKind kind with
  | .ok schema => go schema c
  | .error f => (.error f, c)

def run (s : Session σ) (cloud : CloudConfig) (command : Command) (c : Conversation σ) : Printed σ :=
  match command with
  | .types => (.ok typesText, c)
  | .list kind filters limit paginated =>
      withKind kind (fun schema => runList s cloud schema filters limit paginated) c
  | .view kind nameOrId => withKind kind (fun schema => runView s schema nameOrId) c
  | .delete kind id ignoreMissing => withKind kind (fun schema => runDelete s schema id ignoreMissing) c
  | .wait kind id status failures watched interval timeout =>
      withKind kind (fun schema =>
        runWait s schema id (targetOf watched status failures) (waitPolicy cloud interval timeout)) c

end Command

def Invocation.run {σ : Type} (i : Invocation) (config : Except Error Config) (env : Environment)
    (session : CloudConfig → Session σ) (c : Conversation σ) : Command.Printed σ :=
  if i.command = .types then (.ok Command.typesText, c)
  else
    match config.bind fun config => config.cloud env i.cloud with
    | .ok cloud => i.command.run (session cloud) cloud c
    | .error e => (.error (.error e), c)

end ControlPlane
