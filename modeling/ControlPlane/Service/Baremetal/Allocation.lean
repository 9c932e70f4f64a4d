import ControlPlane.Service.Baremetal.Port
import ControlPlane.Wait

namespace ControlPlane.Baremetal.Allocation

def fields : List Field :=
  [ idField,
    .as (.plain "candidate_nodes") .list,
    .timestamp "created_at" "created_at",
    .as (.plain "extra") .dict,
    .plain "last_error",
    .renamed "node_id" "node_uuid",
    .plain "owner",
    .plain "resource_class",
    .plain "state",
    .as (.plain "traits") .list,
    .timestamp "updated_at" "updated_at" ]

def schema : Schema :=
  schemaFor "baremetal.allocation" "/allocations" "allocations"
    (.ofNames ["node", "resource_class", "state", "owner", "fields"]) fields

def state? (r : Resource) : Option String := r.getText? "state"

def judge (id : String) (ignoreError : Bool) (r : Resource) : Verdict :=
  let state := state? r
  if state == some "error" && !ignoreError then
    .failed (.resourceFailure
      ("Allocation " ++ id ++ " failed: " ++ (r.getText? "last_error").getD ""))
  else if state == some "allocating" then .pending
  else .reached

variable {σ : Type}

def wait (s : Session σ) (policy : WaitPolicy) (ignoreError : Bool) (r : Resource)
    (c : Conversation σ) : Settled × Conversation σ :=
  let id := r.id?.getD ""
  let message := "Timeout waiting for the allocation " ++ id
  poll s { judge := judge id ignoreError } (.begin policy message c) r c

end ControlPlane.Baremetal.Allocation
