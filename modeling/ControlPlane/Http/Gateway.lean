import ControlPlane.Config.Cloud
import ControlPlane.Http.Wire
import ControlPlane.Json.Printer
import ControlPlane.Text.Encoding

namespace ControlPlane.Http

def userAgent : String := "stacksdk/0.1.0"

def requestIdHeader : String := "x-openstack-request-id"

structure Gateway where
  credentials : Credentials := ⟨none⟩
  endpoints : Dict String := .empty
  -- How often a call is repeated at most, and the milliseconds before each repetition.
  retries : Nat := 0
  delay : Nat := 0
  requestId : Nat → String

namespace Gateway

def ofCloud (c : CloudConfig) (requestId : Nat → String) : Gateway :=
  { credentials := .ofCloud c, endpoints := c.endpoints, retries := c.statusCodeRetries
    delay := c.retryDelay * 1000, requestId := requestId }

def isAbsolute (url : String) : Bool :=
  "http://".toList.isPrefixOf url.toList || "https://".toList.isPrefixOf url.toList

def join (base path : String) : String :=
  String.ofList (Text.dropEnd '/' base.toList ++ '/' :: Text.dropStart '/' path.toList)

def base (g : Gateway) (q : Request) : Except Error String :=
  match q.endpoint, q.service with
  | some endpoint, _ => .ok endpoint
  | none, some service =>
      match g.endpoints.get? service with
      | some endpoint => .ok endpoint
      | none => .error (.config ("no endpoint configured for service '" ++ service ++ "'"))
  | none, none =>
      .error (.invalidRequest
        ("relative URL " ++ q.url ++ " without a service or endpoint override"))

def absolute (g : Gateway) (q : Request) : Except Error String :=
  if isAbsolute q.url then .ok q.url else (g.base q).map fun base => join base q.url

def locate (g : Gateway) (q : Request) : Except Error Url := do
  let text ← g.absolute q
  match Url.parse text with
  | .ok url => .ok url
  | .error .malformed => .error (.badUrl text)
  | .error .foreign => .error .transport

def authorization (u : UserInfo) : Headers :=
  match Text.percentDecode u.name with
  | some name =>
      let pair := name ++ ":" ++ (u.password.bind Text.percentDecode).getD ""
      [("authorization", "Basic " ++ String.ofList (Text.base64 pair.toUTF8.toList))]
  | none => []

def unlessPresent (present : Bool) (name value : String) : Headers :=
  if present then [] else [(name, value)]

def versionHeader (q : Request) : Headers :=
  match q.service, q.microversion with
  | some service, some version => [("openstack-api-version", service ++ " " ++ version)]
  | _, _ => []

def headers (g : Gateway) (url : Url) (q : Request) (id : String) : Headers :=
  let own := q.headers.entries.map fun h => (Text.asciiLower h.1, h.2)
  let has := fun name => own.any (·.1 == name)
  (url.user.map authorization).getD [] ++ [(requestIdHeader, id)] ++
    (g.credentials.token.map fun token => ("x-auth-token", token)).toList ++ versionHeader q ++
    unlessPresent (has "accept") "accept" "application/json" ++ own ++
    unlessPresent (has "content-type" || q.body.isNone) "content-type" "application/json" ++
    unlessPresent (has "user-agent") "user-agent" userAgent

def targetOf (url : Url) (params : List (String × String)) : String :=
  if params.isEmpty then url.target
  else
    let form := String.ofList (Text.formPairs params)
    match url.query with
    | some query => url.pathText ++ "?" ++ (if query.isEmpty then form else query ++ "&" ++ form)
    | none => url.pathText ++ "?" ++ form

def message (g : Gateway) (url : Url) (q : Request) (id : String) : Except Error Message :=
  let headers := g.headers url q id
  if isSendable headers then
    .ok
      { method := q.method, target := targetOf url q.params, headers := received headers
        body := (q.body.map Json.compact).getD "" }
  else .error .transport

def contentText (method : Method) (r : Reply) : String :=
  if method = .head ∨ r.status = 204 ∨ r.status = 304 then ""
  else
    match r.body.toList with
    | '\uFEFF' :: rest => String.ofList rest
    | _ => r.body

def accept (q : Request) (r : Reply) : Except Error Response :=
  let response : Response := { status := r.status, headers := readable r.headers }
  let content := contentText q.method r
  if content.toList.all Text.isBlank then .ok response
  else
    match Json.parse content with
    | some body => .ok { response with body := some body }
    | none => .error .json

def refuse (url : Url) (q : Request) (r : Reply) : Error :=
  .ofStatus q.method.token url.text r.status (contentText q.method r)
    ((readable r.headers).get? requestIdHeader)

def failureText (q : Request) (r : Reply) : String :=
  "API error: " ++ statusText r.status ++ " - " ++ Text.sanitizeForLog (contentText q.method r)

def retryText (g : Gateway) (url : Url) (q : Request) (r : Reply) (left : Nat) : String :=
  q.method.token ++ " " ++ url.text ++ " returned " ++ statusText r.status ++ ", retrying (" ++
    toString (g.retries - left) ++ "/" ++ toString g.retries ++ ")"

def attempt (g : Gateway) (url : Url) (q : Request) (m : Message) : Nat → Wire → Answer Wire
  | left, w =>
      match w.deliver m with
      | (.dropped, w) => { result := .error .transport, peer := w }
      | (.answered r, w) =>
          if isSuccess r.status then { result := accept q r, peer := w }
          else
            let refused : Answer Wire :=
              { result := .error (refuse url q r), peer := w.record [.error (failureText q r)] }
            match left with
            | 0 => refused
            | left + 1 =>
                if q.retriable.contains r.status then
                  let w := w.record [.warning (g.retryText url q r left), .slept g.delay]
                  let a := g.attempt url q m left w
                  { a with duration := g.delay + a.duration }
                else refused

def answer (g : Gateway) (q : Request) (w : Wire) : Answer Wire :=
  match g.locate q with
  | .error e => { result := .error e, peer := w }
  | .ok url =>
      match g.message url q (g.requestId w.calls) with
      | .error e => { result := .error e, peer := w }
      | .ok m =>
          if w.reaches url then g.attempt url q m g.retries { w with calls := w.calls + 1 }
          else { result := .error .transport, peer := w }

theorem attempt_shorter {g : Gateway} {url : Url} {q : Request} {m : Message} {r : Response} :
    ∀ {left : Nat} {w : Wire}, (g.attempt url q m left w).result = .ok r →
      (g.attempt url q m left w).peer.script.length < w.script.length := by
  intro left
  induction left with
  | zero =>
      intro w h
      unfold attempt at h ⊢
      split at h
      · simp at h
      · rename_i hd
        split at h
        · rename_i hs
          simp only [hs, if_true]
          exact Wire.deliver_shorter hs hd
        · simp at h
  | succ left ih =>
      intro w h
      unfold attempt at h ⊢
      split at h
      · simp at h
      · rename_i hd
        split at h
        · rename_i hs
          simp only [hs, if_true]
          exact Wire.deliver_shorter hs hd
        · rename_i hs
          simp only at h
          split at h
          · rename_i hc
            simp only [hs, hc, if_true, Bool.false_eq_true, if_false]
            exact Nat.lt_of_lt_of_le (ih h) (by simpa [Wire.record] using Wire.deliver_le hd)
          · simp at h

theorem answer_shorter {g : Gateway} {q : Request} {w : Wire} {r : Response}
    (h : (g.answer q w).result = .ok r) :
    (g.answer q w).peer.script.length < w.script.length := by
  unfold answer at h ⊢
  split at h
  · simp at h
  · split at h
    · simp at h
    · split at h
      · rename_i hr
        simp only [hr, if_true]
        exact attempt_shorter h
      · simp at h

def session (g : Gateway) : Session Wire where
  answer := g.answer
  supply w := w.script.length
  supply_lt _ _ _ h := answer_shorter h

end Gateway

end ControlPlane.Http
