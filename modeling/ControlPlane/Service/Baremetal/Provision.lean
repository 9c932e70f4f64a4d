import ControlPlane.Error

namespace ControlPlane.Baremetal

def expectedProvisionState (target : String) : String :=
  match target with
  | "active" | "rebuild" | "unrescue" => "active"
  | "adopt" | "provide" | "deleted" | "undeploy" => "available"
  | "clean" | "inspect" | "manage" => "manageable"
  | "rescue" => "rescue"
  | other => other

def expectedPowerState (target : String) : String :=
  match target with
  | "power on" | "rebooting" | "soft rebooting" => "power on"
  | "power off" | "soft power off" => "power off"
  | other => other

structure ProvisionRequest where
  target : String
  configDrive : Option Value := none
  cleanSteps : Option Value := none
  rescuePassword : Option String := none
  deriving DecidableEq, Repr

namespace ProvisionRequest

def takesConfigDrive (target : String) : Bool := target == "active" || target == "rebuild"

def checkConfigDrive (r : ProvisionRequest) : Except Error Unit :=
  if r.configDrive.isSome && !takesConfigDrive r.target then
    .error (.invalidRequest
      ("Config drive can only be provided with \"active\" and \"rebuild\" targets, got " ++ r.target))
  else .ok ()

def checkExtra (given : Bool) (what verb owner target : String) : Except Error Unit :=
  if given = (target == owner) then .ok ()
  else if given then
    .error (.invalidRequest
      (what ++ " can only be provided with \"" ++ owner ++ "\" target"))
  else .error (.invalidRequest (what ++ " " ++ verb ++ " required for \"" ++ owner ++ "\" target"))

def check (r : ProvisionRequest) : Except Error Unit := do
  r.checkConfigDrive
  checkExtra r.cleanSteps.isSome "Clean steps" "are" "clean" r.target
  checkExtra r.rescuePassword.isSome "Rescue password" "is" "rescue" r.target

def optionalEntry (key : String) : Option Value → List (String × Value)
  | some v => [(key, v)]
  | none => []

def body (r : ProvisionRequest) : Value :=
  .ofDict (.ofList (("target", .text r.target) ::
    (optionalEntry "configdrive" r.configDrive ++ optionalEntry "clean_steps" r.cleanSteps ++
      optionalEntry "rescue_password" (r.rescuePassword.map .text))))

def toBody (r : ProvisionRequest) : Except Error Value := r.check.map fun _ => r.body

end ProvisionRequest

end ControlPlane.Baremetal
