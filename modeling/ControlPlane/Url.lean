import ControlPlane.Url.Host
import ControlPlane.Url.Path

namespace ControlPlane

inductive Scheme where
  | http
  | https
  deriving DecidableEq, Repr

def Scheme.name : Scheme → String
  | .http => "http"
  | .https => "https"

def Scheme.defaultPort : Scheme → Nat
  | .http => 80
  | .https => 443

structure UserInfo where
  name : String
  password : Option String
  deriving DecidableEq, Repr

structure Url where
  scheme : Scheme
  user : Option UserInfo := none
  host : Host
  port : Option Nat := none
  path : List String
  query : Option String := none
  fragment : Option String := none
  deriving DecidableEq, Repr

namespace Url

inductive Fault where
  | malformed
  | foreign
  deriving DecidableEq, Repr

def before (mark : String) : Option String → String
  | some s => mark ++ s
  | none => ""

def userText : Option UserInfo → String
  | some u => u.name ++ before ":" u.password ++ "@"
  | none => ""

def effectivePort (u : Url) : Nat := u.port.getD u.scheme.defaultPort

def pathText (u : Url) : String := String.join (u.path.map ("/" ++ ·))

def target (u : Url) : String := u.pathText ++ before "?" u.query

def text (u : Url) : String :=
  u.scheme.name ++ "://" ++ userText u.user ++ u.host.text ++ before ":" (u.port.map toString) ++
    u.target ++ before "#" u.fragment

def tidy (s : String) : List Char :=
  let isEdge := fun (c : Char) => c.toNat ≤ 0x20
  let cs := (s.toList.dropWhile isEdge).reverse.dropWhile isEdge
  cs.reverse.filter fun c => !"\t\n\r".toList.contains c

def isSchemeChar (c : Char) : Bool := Text.isAlnum c || c == '+' || c == '-' || c == '.'

def cutScheme? (cs : List Char) : Option (String × List Char) :=
  match cs.span isSchemeChar with
  | (first :: others, ':' :: rest) =>
      if first.isAlpha then some (Text.asciiLower (String.ofList (first :: others)), rest) else none
  | _ => none

def userOf (cs : List Char) : Option UserInfo :=
  let (name, password) := Text.cut ':' cs
  let password := (password.filter (!·.isEmpty)).map (encode staysInUser)
  if name.isEmpty && password.isNone then none else some ⟨encode staysInUser name, password⟩

def cutUser (authority : List Char) : Option UserInfo × List Char :=
  match authority.reverse.span (· != '@') with
  | (host, _ :: user) => (userOf user.reverse, host.reverse)
  | (host, []) => (none, host.reverse)

def cutPort (inside : Bool) : List Char → List Char × Option (List Char)
  | [] => ([], none)
  | c :: rest =>
      if c = ':' && !inside then ([], some rest)
      else
        let (host, port) := cutPort (if c = '[' then true else if c = ']' then false else inside) rest
        (c :: host, port)

def readPort? (scheme : Scheme) : Option (List Char) → Option (Option Nat)
  | none => some none
  | some [] => some none
  | some digits =>
      match (Text.numeral? 10 digits).filter (· < power 2 16) with
      | some port => some (if port = scheme.defaultPort then none else some port)
      | none => none

def endsAuthority (c : Char) : Bool := isSlash c || c == '?' || c == '#'

def ofRest? (scheme : Scheme) (rest : List Char) : Option Url := do
  let (authority, rest) := (rest.dropWhile isSlash).span (!endsAuthority ·)
  let (user, place) := cutUser authority
  let (host, port) := cutPort false place
  let host ← Host.parse? host
  let port ← readPort? scheme port
  let (rest, fragment) := Text.cut '#' rest
  let (path, query) := Text.cut '?' rest
  some
    { scheme := scheme, user := user, host := host, port := port, path := segments path
      query := query.map (encode staysInQuery), fragment := fragment.map (encode staysInFragment) }

def orMalformed : Option Url → Except Fault Url
  | some u => .ok u
  | none => .error .malformed

def parse (s : String) : Except Fault Url :=
  match cutScheme? (tidy s) with
  | none => .error .malformed
  | some ("http", rest) => orMalformed (ofRest? .http rest)
  | some ("https", rest) => orMalformed (ofRest? .https rest)
  | some _ => .error .foreign

end Url

end ControlPlane
