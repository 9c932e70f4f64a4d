import ControlPlane.Json.Reader
import ControlPlane.Text.Printable

namespace ControlPlane

structure Refusal where
  method : String
  url : String
  status : Nat
  message : String
  requestId : Option String := none
  deriving DecidableEq, Repr, Inhabited

def Refusal.text (r : Refusal) : String :=
  let message := if r.message.isEmpty then "" else ": " ++ r.message
  let request :=
    match r.requestId with
    | some id => " (request id " ++ id ++ ")"
    | none => ""
  r.method ++ " " ++ r.url ++ " returned " ++ toString r.status ++ message ++ request

inductive Error where
  | methodNotSupported (kind method : String)
  | notFound (details : Refusal)
  | resourceNotFound (message : String) (details : Option Refusal)
  | duplicateResource (kind query : String)
  | invalidRequest (text : String)
  | badUrl (url : String)
  | invalidValue (text : String)
  | resourceFailure (text : String)
  | resourceTimeout (text : String)
  | http (details : Refusal)
  | transport
  | json
  | config (text : String)
  | unusableConfig
  deriving DecidableEq, Repr, Inhabited

namespace Error

def message : Error → String
  | .methodNotSupported kind method => method ++ " is not supported for " ++ kind
  | .notFound details => "Not found: " ++ details.text
  | .resourceNotFound message _ => message
  | .duplicateResource kind query =>
      "More than one " ++ kind ++ " exists with the name or id '" ++ query ++ "'"
  | .invalidRequest text => "Invalid request: " ++ text
  | .badUrl url => "Invalid request: bad URL " ++ url
  | .invalidValue text => "Invalid value: " ++ text
  | .resourceFailure text => text
  | .resourceTimeout text => text
  | .http details => "HTTP error: " ++ details.text
  | .transport => "Transport error"
  | .json => "Failed to parse JSON"
  | .config text => "Configuration error: " ++ text
  | .unusableConfig => "Configuration error"

def isNotFound : Error → Bool
  | .notFound _ => true
  | .resourceNotFound _ _ => true
  | _ => false

def refusal? : Error → Option Refusal
  | .notFound details => some details
  | .http details => some details
  | .resourceNotFound _ details => details
  | _ => none

def status? (e : Error) : Option Nat := e.refusal?.map (·.status)

end Error

def firstText? (v : Value) (keys : List String) : Option String :=
  keys.findSome? fun key => (v.member? key).bind Value.text?

def nestedMessage? : Value → Option String
  | .record entries => entries.findSome? fun e => firstText? e.2 ["message"]
  | _ => none

def serverMessage (body : String) : String :=
  match Json.parse body with
  | none => String.ofList (body.toList.take 200)
  | some v =>
      match firstText? v ["error_message"] with
      | some inner =>
          match Json.parse inner with
          | some parsed => (firstText? parsed ["faultstring"]).getD inner
          | none => inner
      | none =>
          match firstText? v ["message", "faultstring", "error_msg"] with
          | some message => message
          | none => (nestedMessage? v).getD ""

def Error.ofStatus (method url : String) (status : Nat) (body : String) (requestId : Option String) :
    Error :=
  let details : Refusal := ⟨method, url, status, serverMessage body, requestId⟩
  if status = 404 then .notFound details else .http details

def statusSummary? : Nat → Option String
  | 401 => some "Authentication failed. Check the token for this cloud."
  | 403 => some "Permission denied."
  | 409 => some "Resource conflict. The resource may be locked or in use."
  | 429 => some "Rate limit exceeded. Please try again later."
  | 500 | 503 => some "Service temporarily unavailable. Please try again."
  | _ => none

def Error.line (e : Error) (shown : String) : String :=
  match e.status?.bind statusSummary? with
  | some text => text
  | none => Text.sanitizeMessage shown

def Error.summary (e : Error) : String := e.line e.message

end ControlPlane
