import ControlPlane.Command.Run
import ControlPlane.Http.Gateway

namespace ControlPlane

namespace Http

def textMember (v : Value) (name : String) : String :=
  ((v.member? name).bind Value.text?).getD ""

def headersOf (v : Value) : Headers :=
  (v.record?.getD .empty).entries.filterMap fun e => e.2.text?.map fun value => (e.1, value)

def Delivery.ofValue (v : Value) : Delivery :=
  if (v.member? "drop").bind Value.bool? == some true then .dropped
  else
    .answered
      { status := ((v.member? "status").bind Value.natural?).getD 200
        headers := ((v.member? "headers").map headersOf).getD []
        body := textMember v "body" }

def scriptOf (v : Value) : List Delivery :=
  match v.member? "replies" with
  | some (.list replies) => replies.map Delivery.ofValue
  | _ => []

end Http

structure Rehearsal where
  config : List ConfigFile := []
  environment : Environment := {}
  script : List Http.Delivery := []
  deriving Repr

namespace Rehearsal

def port : Nat := 54321

def requestId (_ : Nat) : String := "req-<uuid>"

def ofValue (v : Value) : Rehearsal :=
  let setting := fun name => ((v.member? "env").bind (·.member? name)).bind Value.text?
  { config := (((v.member? "clouds").bind Value.text?).map ConfigFile.readable).toList
    environment := { cloud := setting "OS_CLOUD", token := setting "OS_TOKEN" }
    script := Http.scriptOf v }

def talk (x : Rehearsal) : Conversation Http.Wire := { peer := { port := port, script := x.script } }

def session (cloud : CloudConfig) : Session Http.Wire :=
  (Http.Gateway.ofCloud cloud requestId).session

def run (x : Rehearsal) (i : Invocation) : Command.Printed Http.Wire :=
  i.run (Config.load x.config) x.environment session x.talk

end Rehearsal

end ControlPlane
