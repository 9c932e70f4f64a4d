import ControlPlane.Listing

namespace ControlPlane.Find

def hasName (query : String) (r : Resource) : Bool :=
  r.id? == some query || r.name? == some query

def mayBeName (e : Error) : Bool := e.isNotFound || e.status? == some 400

def candidate (s : Schema) (query : String) (params : Dict Value) : Resource :=
  .existing s ((params.filter fun name _ => (s.uriField? name).isSome).insert "id" (.text query))

def missing (s : Schema) (query : String) : Error :=
  .resourceNotFound ("No " ++ s.kind ++ " found for " ++ query) none

def duplicate (s : Schema) (query : String) : Error := .duplicateResource s.kind query

def keepMatch (s : Schema) (query : String) (found : Option Resource) (r : Resource) :
    Option Resource × Option Listing.Ending :=
  if hasName query r then
    match found with
    | none => (some r, none)
    | some first => (some first, some (.failed (duplicate s query)))
  else (found, none)

variable {σ : Type}

def search (s : Session σ) (schema : Schema) (query : String) (params : Dict Value)
    (c : Conversation σ) : Except Error (Option Resource) × Conversation σ :=
  if schema.permits .list then
    match Listing.start schema params true with
    | .error e => (.error e, c)
    | .ok l =>
        match l.scan s (keepMatch schema query) none c with
        | ((_, .failed e), c) => (.error e, c)
        | ((found, _), c) => (.ok found, c)
  else (.ok none, c)

def settle (schema : Schema) (query : String) (ignoreMissing : Bool) :
    Except Error (Option Resource) → Except Error (Option Resource)
  | .ok none => if ignoreMissing then .ok none else .error (missing schema query)
  | result => result

def find (s : Session σ) (schema : Schema) (query : String) (ignoreMissing : Bool)
    (params : Dict Value) (c : Conversation σ) : Except Error (Option Resource) × Conversation σ :=
  let look c :=
    let (result, c) := search s schema query params c
    (settle schema query ignoreMissing result, c)
  if schema.permits .fetch then
    match (candidate schema query params).perform s .fetch c with
    | (.ok r, c) => (.ok (some r), c)
    | (.error e, c) => if mayBeName e then look c else (.error e, c)
  else look c

end ControlPlane.Find
