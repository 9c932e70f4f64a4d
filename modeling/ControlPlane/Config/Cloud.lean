import ControlPlane.Config.Yaml
import ControlPlane.Error

namespace ControlPlane

structure CloudConfig where
  token : Option String := none
  regionName : Option String := none
  projectId : Option String := none
  apiTimeout : Option Nat := none
  -- How often an answer that allows it is asked for again, and how many seconds apart.
  statusCodeRetries : Nat := 3
  retryDelay : Nat := 1
  waitInterval : Nat := 2
  endpoints : Dict String := .empty
  deriving DecidableEq, Repr, Inhabited

structure Config where
  clouds : Dict CloudConfig := .empty
  deriving DecidableEq, Repr, Inhabited

structure Environment where
  cloud : Option String := none
  token : Option String := none
  deriving DecidableEq, Repr

namespace Yaml

def text? : Yaml → Option String
  | .scalar s _ => some s
  | _ => none

def isNothing : Yaml → Bool
  | .scalar s plain => plain && s.isEmpty
  | _ => false

def isNull : Yaml → Bool
  | .scalar s plain => plain && ["", "~", "null", "Null", "NULL"].contains s
  | _ => false

def optionalText? (y : Yaml) : Option (Option String) :=
  if y.isNull then some none else y.text?.map some

def hasLeadingZero (cs : List Char) : Bool :=
  cs.head? == some '0' && 1 < cs.length && cs.all Char.isDigit

def naturalText? (cs : List Char) : Option Nat :=
  let cs := if cs.head? == some '+' then cs.drop 1 else cs
  match cs with
  | '0' :: 'x' :: rest => Text.numeral? 16 rest
  | '0' :: 'o' :: rest => Text.numeral? 8 rest
  | '0' :: 'b' :: rest => Text.numeral? 2 rest
  | cs => if hasLeadingZero cs then none else Text.numeral? 10 cs

def naturalBelow? (limit : Nat) : Yaml → Option Nat
  | .scalar s true => (naturalText? s.toList).filter (· < limit)
  | _ => none

def optionalNatural? (limit : Nat) (y : Yaml) : Option (Option Nat) :=
  if y.isNull then some none else (y.naturalBelow? limit).map some

def entries? : Yaml → Option (List (String × Yaml))
  | .mapping entries => entries.mapM fun e => e.1.text?.map fun key => (key, e.2)
  | y => if y.isNothing then some [] else none

def textDict? (y : Yaml) : Option (Dict String) := do
  let entries ← y.entries?
  let texts ← entries.mapM fun e => e.2.text?.map fun s => (e.1, s)
  some (.ofList texts)

end Yaml

namespace CloudConfig

def readField (c : CloudConfig) (key : String) (y : Yaml) : Option CloudConfig :=
  match key with
  | "token" => y.optionalText?.map fun v => { c with token := v }
  | "region_name" => y.optionalText?.map fun v => { c with regionName := v }
  | "project_id" => y.optionalText?.map fun v => { c with projectId := v }
  | "api_timeout" => (y.optionalNatural? (power 2 64)).map fun v => { c with apiTimeout := v }
  | "status_code_retries" =>
      (y.naturalBelow? (power 2 32)).map fun v => { c with statusCodeRetries := v }
  | "retry_delay" => (y.naturalBelow? (power 2 64)).map fun v => { c with retryDelay := v }
  | "wait_interval" => (y.naturalBelow? (power 2 64)).map fun v => { c with waitInterval := v }
  | "endpoints" => y.textDict?.map fun v => { c with endpoints := v }
  | _ => some c

def fieldNames : List String :=
  ["token", "region_name", "project_id", "api_timeout", "status_code_retries", "retry_delay",
    "wait_interval", "endpoints"]

def repeats (names : List String) (entries : List (String × Yaml)) : Bool :=
  names.any fun name => 1 < (entries.filter (·.1 == name)).length

def ofYaml (y : Yaml) : Option CloudConfig := do
  let entries ← y.entries?
  if repeats fieldNames entries then none
  else entries.foldlM (fun c e => c.readField e.1 e.2) {}

def interval (c : CloudConfig) : Nat := c.waitInterval * 1000

end CloudConfig

namespace Config

def cloudsOf (y : Yaml) : Option (Dict CloudConfig) := do
  let entries ← y.entries?
  let clouds ← entries.mapM fun e => (CloudConfig.ofYaml e.2).map fun c => (e.1, c)
  some (.ofList clouds)

def ofNode (y : Yaml) : Option Config := do
  let entries ← y.entries?
  if CloudConfig.repeats ["clouds"] entries then none
  else
    match entries.lookup "clouds" with
    | none => some {}
    | some y => (cloudsOf y).map Config.mk

def ofYaml (text : String) : Except Error Config :=
  match Yaml.parse text with
  | some none => .ok {}
  | some (some y) =>
      match ofNode y with
      | some c => .ok c
      | none => .error .unusableConfig
  | none => .error .unusableConfig

def select (c : Config) : Option String → Except Error CloudConfig
  | some name =>
      match c.clouds.get? name with
      | some cloud => .ok cloud
      | none => .error (.config ("cloud '" ++ name ++ "' is not defined"))
  | none =>
      match c.clouds.entries with
      | [e] => .ok e.2
      | _ => .error (.config "several clouds defined, pick one with --cloud or OS_CLOUD")

def cloud (c : Config) (env : Environment) (name : Option String) : Except Error CloudConfig := do
  let cloud ← c.select (name.or env.cloud)
  match env.token with
  | some token => .ok { cloud with token := some token }
  | none => .ok cloud

end Config

inductive ConfigFile where
  | missing
  | unreadable
  | readable (text : String)
  deriving DecidableEq, Repr

def Config.load : List ConfigFile → Except Error Config
  | [] => .error (.config "no clouds.yaml found")
  | .missing :: rest => load rest
  | .unreadable :: _ => .error .unusableConfig
  | .readable text :: _ => ofYaml text

structure Credentials where
  token : Option String
  deriving DecidableEq

namespace Credentials

def ofToken (token : Option String) : Credentials := ⟨token.filter (!·.isEmpty)⟩

def ofCloud (c : CloudConfig) : Credentials := ofToken c.token

def isAnonymous (c : Credentials) : Bool := c.token.isNone

def describe (c : Credentials) : String :=
  let shown := if c.token.isSome then "<redacted>" else "<none>"
  "Credentials \x7b token: \"" ++ shown ++ "\" \x7d"

end Credentials

end ControlPlane
