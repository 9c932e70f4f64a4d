import ControlPlane.Reference
import ControlPlane.Service.Baremetal.Provision
import ControlPlane.Service.Baremetal.Port

namespace ControlPlane.Baremetal.Node

def query : QueryMapping :=
  ((QueryMapping.ofNames ["associated", "conductor_group", "driver", "fault", "provision_state",
    "resource_class", "fields", "owner"]).rename "instance_id" "instance_uuid").rename
    "is_maintenance" "maintenance"

def fields : List Field :=
  [ idField,
    .renamed "allocation_id" "allocation_uuid",
    .plain "boot_interface",
    .renamed "chassis_id" "chassis_uuid",
    .as (.plain "clean_step") .dict,
    .plain "conductor",
    .plain "conductor_group",
    .timestamp "created_at" "created_at",
    .plain "deploy_interface",
    .plain "driver",
    .as (.plain "driver_info") .dict,
    .as (.plain "driver_internal_info") .dict,
    .as (.plain "extra") .dict,
    .plain "fault",
    .renamed "instance_id" "instance_uuid",
    .as (.plain "instance_info") .dict,
    .as (.renamed "is_automated_clean_enabled" "automated_clean") .boolean,
    .as (.renamed "is_console_enabled" "console_enabled") .boolean,
    { name := "is_maintenance", wire := "maintenance", coercion := some .boolean
      fallback := .bool false },
    .as (.renamed "is_protected" "protected") .boolean,
    .plain "last_error",
    .plain "maintenance_reason",
    .plain "network_interface",
    .plain "owner",
    .plain "power_interface",
    .plain "power_state",
    .as (.plain "properties") .dict,
    .plain "provision_state",
    .plain "reservation",
    .plain "resource_class",
    .plain "target_power_state",
    .plain "target_provision_state",
    .as (.plain "traits") .list,
    .timestamp "updated_at" "updated_at" ]

def schema : Schema := schemaFor "baremetal.node" "/nodes" "nodes" query fields

def provisionState? (r : Resource) : Option String := r.getText? "provision_state"

def powerState? (r : Resource) : Option String := r.getText? "power_state"

def reservation? (r : Resource) : Option String := r.getText? "reservation"

def lastError? (r : Resource) : Option String := r.getText? "last_error"

def isMaintenance (r : Resource) : Bool := (r.getBool? "is_maintenance").getD false

def idText (r : Resource) : String := r.id?.getD ""

def isAt (expected : String) (state : Option String) : Bool :=
  match state with
  | some s => s == expected
  | none => expected == "available"

def isFailedState (state : String) : Bool := " failed".toList.isSuffixOf state.toList || state == "error"

def failure? (r : Resource) (expected : String) : Option Error :=
  match provisionState? r with
  | none => none
  | some state =>
      let lastError := (lastError? r).getD ""
      if isFailedState state then
        some (.resourceFailure ("Node " ++ idText r ++ " reached failure state \"" ++ state ++
          "\"; the last error is " ++ lastError))
      else if state == "enroll" && expected == "manageable" && !lastError.isEmpty then
        some (.resourceFailure ("Node " ++ idText r ++ " could not reach state manageable: " ++
          "failed to verify management credentials; the last error is " ++ lastError))
      else none

def checkReached (r : Resource) (expected : String) (abortOnFailure : Bool) : Except Error Bool :=
  if isAt expected (provisionState? r) then .ok true
  else if abortOnFailure then
    match failure? r expected with
    | some e => .error e
    | none => .ok false
  else .ok false

def reachedVerdict (b : Bool) : Verdict := if b then .reached else .pending

def provisionWatch (expected : String) (abortOnFailure : Bool) : Watch where
  judge r :=
    match checkReached r expected abortOnFailure with
    | .ok b => reachedVerdict b
    | .error e => .failed e

def powerWatch (expected : String) : Watch where
  judge r := reachedVerdict (powerState? r == some expected)

def reservationWatch : Watch where
  judge r := reachedVerdict (reservation? r).isNone

variable {σ : Type}

def waitForProvisionState (s : Session σ) (expected : String) (policy : WaitPolicy)
    (abortOnFailure : Bool) (r : Resource) (c : Conversation σ) : Settled × Conversation σ :=
  let message :=
    "Timeout waiting for node " ++ idText r ++ " to reach target state '" ++ expected ++ "'"
  poll s (provisionWatch expected abortOnFailure) (.begin policy message c) r c

def waitForPowerState (s : Session σ) (expected : String) (policy : WaitPolicy) (r : Resource)
    (c : Conversation σ) : Settled × Conversation σ :=
  let message :=
    "Timeout waiting for node " ++ idText r ++ " to reach power state '" ++ expected ++ "'"
  poll s (powerWatch expected) (.begin policy message c) r c

def waitForReservation (s : Session σ) (policy : WaitPolicy) (r : Resource) (c : Conversation σ) :
    Settled × Conversation σ :=
  if (reservation? r).isNone then ((.ok (), r), c)
  else
    let message := "Timeout waiting for the lock to be released on node " ++ idText r
    poll s reservationWatch (.begin policy message c) r c

def refresh (s : Session σ) (r : Resource) (c : Conversation σ) : Settled × Conversation σ :=
  r.settle s .fetch c

def after (s : Session σ) (r : Resource) (method : Method) (suffix : String) (body : Option Value)
    (go : Conversation σ → Settled × Conversation σ) (c : Conversation σ) :
    Settled × Conversation σ :=
  match r.action s method suffix body c with
  | (.error e, c) => ((.error e, r), c)
  | (.ok _, c) => go c

def setProvisionState (s : Session σ) (request : ProvisionRequest) (wait : Option WaitPolicy)
    (r : Resource) (c : Conversation σ) : Settled × Conversation σ :=
  match request.toBody with
  | .error e => ((.error e, r), c)
  | .ok body =>
      after s r .put "states/provision" (some body) (fun c =>
        match wait with
        | some policy =>
            waitForProvisionState s (expectedProvisionState request.target) policy true r c
        | none => refresh s r c) c

def setPowerState (s : Session σ) (target : String) (wait : Option WaitPolicy) (r : Resource)
    (c : Conversation σ) : Settled × Conversation σ :=
  after s r .put "states/power" (some (.record [("target", .text target)])) (fun c =>
    match wait with
    | some policy => waitForPowerState s (expectedPowerState target) policy r c
    | none => ((.ok (), r), c)) c

def setMaintenance (s : Session σ) (reason : Option String) (r : Resource) (c : Conversation σ) :
    Settled × Conversation σ :=
  let reason := (reason.map Value.text).getD .null
  after s r .put "maintenance" (some (.record [("reason", reason)])) (refresh s r) c

def unsetMaintenance (s : Session σ) (r : Resource) (c : Conversation σ) :
    Settled × Conversation σ :=
  after s r .delete "maintenance" none (refresh s r) c

def awaitReservation (s : Session σ) (policy : WaitPolicy) (r : Resource) (c : Conversation σ) :
    Settled × Conversation σ :=
  if (reservation? r).isNone && (provisionState? r).isNone then
    match refresh s r c with
    | ((.ok (), r), c) => waitForReservation s policy r c
    | failed => failed
  else waitForReservation s policy r c

end ControlPlane.Baremetal.Node
