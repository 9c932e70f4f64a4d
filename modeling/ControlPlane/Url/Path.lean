import ControlPlane.Text.Encoding

namespace ControlPlane.Url

def isSlash (c : Char) : Bool := c == '/' || c == '\\'

inductive Step where
  | stay
  | up
  | down (segment : List Char)
  deriving DecidableEq, Repr

def plainDots : List Char → List Char
  | '%' :: '2' :: 'e' :: rest | '%' :: '2' :: 'E' :: rest => '.' :: plainDots rest
  | c :: rest => c :: plainDots rest
  | [] => []

def Step.ofSegment (segment : List Char) : Step :=
  match plainDots segment with
  | ['.'] => .stay
  | ['.', '.'] => .up
  | _ => .down segment

def walk (reached : List (List Char)) : List (List Char) → List (List Char)
  | [] => reached.reverse
  | [last] =>
      match Step.ofSegment last with
      | .stay => ([] :: reached).reverse
      | .up => ([] :: reached.drop 1).reverse
      | .down segment => (segment :: reached).reverse
  | first :: rest =>
      match Step.ofSegment first with
      | .stay => walk reached rest
      | .up => walk (reached.drop 1) rest
      | .down segment => walk (segment :: reached) rest

def isControl (c : Char) : Bool := c.toNat < 0x20 || 0x7E < c.toNat

def staysInFragment (c : Char) : Bool := !isControl c && !" \"<>`".toList.contains c

def staysInPath (c : Char) : Bool := staysInFragment c && !"#?\x7b\x7d".toList.contains c

def staysInUser (c : Char) : Bool := staysInPath c && !"/:;=@[\\]^|".toList.contains c

def staysInQuery (c : Char) : Bool := !isControl c && !" \"#<>'".toList.contains c

def encode (stays : Char → Bool) (cs : List Char) : String :=
  String.ofList (Text.percentEncodeWith stays cs)

def segments (path : List Char) : List String :=
  let path := if path.head?.any isSlash then path.drop 1 else path
  (walk [] (Text.split isSlash path)).map (encode staysInPath)

end ControlPlane.Url
