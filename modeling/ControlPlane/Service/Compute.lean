import ControlPlane.Reference

namespace ControlPlane.Compute.Job

def fields : List Field :=
  [ .renamed "id" "job_id",
    .timestamp "begin_time" "begin_time",
    .timestamp "end_time" "end_time",
    .as (.plain "entities") .dict,
    .plain "error_code",
    .plain "fail_reason",
    .plain "job_type",
    .plain "status",
    { name := "project_id", location := .uri } ]

def schema : Schema :=
  { kind := "ecs.job", service := "ecs", basePath := "/v1/\x7bproject_id\x7d/jobs"
    allow := [.fetch], fields := FieldTable.merge FieldTable.base fields }

def ofId (project : Option String) (id : String) : Except Error Resource :=
  match project with
  | some project =>
      .ok (.existing schema (.ofList [("id", .text id), ("project_id", .text project)]))
  | none => .error (.config "project_id must be configured to query jobs")

def target : Wait.Target := { status := "SUCCESS", failures := ["FAIL"] }

variable {σ : Type}

def get (s : Session σ) (project : Option String) (id : String) (c : Conversation σ) :
    Except Error Resource × Conversation σ :=
  match ofId project id with
  | .error e => (.error e, c)
  | .ok r => Reference.get s schema (.known r) c

def wait (s : Session σ) (project : Option String) (id : String) (policy : WaitPolicy)
    (c : Conversation σ) : Except Error Resource × Conversation σ :=
  match ofId project id with
  | .error e => (.error e, c)
  | .ok r => settled (Wait.forAttribute s target policy r c)

end ControlPlane.Compute.Job
