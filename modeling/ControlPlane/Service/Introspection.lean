import ControlPlane.Reference

namespace ControlPlane.Introspection

def fields : List Field :=
  [ .renamed "id" "uuid",
    .plain "error",
    .as (.renamed "is_finished" "finished") .boolean,
    .timestamp "finished_at" "finished_at",
    .as (.plain "links") .list,
    .timestamp "started_at" "started_at",
    .plain "state" ]

def schema : Schema :=
  { kind := "baremetal-introspection.introspection", service := "baremetal-introspection"
    basePath := "/introspection", resourcesKey := some "introspection", allow := Capability.readOnly
    fields := FieldTable.merge FieldTable.base fields }

def isFinished (r : Resource) : Bool := (r.getBool? "is_finished").getD false

def isFailed (r : Resource) : Bool := r.getText? "state" == some "error"

def failure (r : Resource) : Error :=
  .resourceFailure ("Introspection of node " ++ r.id?.getD "" ++ " failed: " ++
    (r.getText? "error").getD "")

def judge (ignoreError : Bool) (r : Resource) : Verdict :=
  if isFailed r && !ignoreError then .failed (failure r)
  else if isFinished r then .reached
  else .pending

def startRequest (r : Resource) (manageBoot : Option Bool) : Except Error Request := do
  let request := r.schema.request .post (← r.path true)
  match manageBoot with
  | some b => .ok { request with params := [("manage_boot", boolWord b)] }
  | none => .ok request

variable {σ : Type}

def start (s : Session σ) (manageBoot : Option Bool) (r : Resource) (c : Conversation σ) :
    Except Error Resource × Conversation σ :=
  match startRequest r manageBoot with
  | .error e => (.error e, c)
  | .ok q =>
      let (result, c) := s.request q c
      (result.map fun _ => r, c)

def abort (s : Session σ) (ignoreMissing : Bool) (r : Resource) (c : Conversation σ) :
    Except Error Unit × Conversation σ :=
  if isFinished r then (.ok (), c)
  else
    match r.action s .post "abort" none c with
    | (.ok _, c) => (.ok (), c)
    | (.error e, c) => (if e.isNotFound && ignoreMissing then .ok () else .error e, c)

def getData (s : Session σ) (processed : Bool) (r : Resource) (c : Conversation σ) :
    Except Error Value × Conversation σ :=
  let (result, c) := r.action s .get (if processed then "data" else "data/unprocessed") none c
  (result.map Response.content, c)

def wait (s : Session σ) (policy : WaitPolicy) (ignoreError : Bool) (r : Resource)
    (c : Conversation σ) : Settled × Conversation σ :=
  match judge ignoreError r with
  | .failed e => ((.error e, r), c)
  | .reached => ((.ok (), r), c)
  | .pending =>
      let message := "Timeout waiting for introspection on node " ++ r.id?.getD ""
      poll s { judge := judge ignoreError } (.begin policy message c) r c

end ControlPlane.Introspection
