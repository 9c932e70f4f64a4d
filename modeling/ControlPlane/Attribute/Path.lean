import ControlPlane.Attribute.Schema
import ControlPlane.Text.Encoding

namespace ControlPlane

def Value.plainText? : Value → Option String
  | .null => none
  | .text s => some s
  | v => some (Json.compact v)

inductive PathPiece where
  | literal (text : List Char)
  | slot (name : String)
  deriving DecidableEq, Repr

-- Cut a path into pieces; `slot` is what has been read, backwards, since an opening brace.
def pathPieces (slot : Option (List Char)) (path : List Char) : List PathPiece :=
  match slot, path with
  | none, [] => []
  | none, c :: rest =>
      if c = '{' then pathPieces (some []) rest else .literal [c] :: pathPieces none rest
  | some name, [] => [.literal ('{' :: name.reverse)]
  | some name, c :: rest =>
      if c = '}' then .slot (String.ofList name.reverse) :: pathPieces none rest
      else pathPieces (some (c :: name)) rest

namespace Schema

def slotKey (s : Schema) (name : String) : String :=
  match s.uriField? name with
  | some f => f.wire
  | none => name

def fillPiece (s : Schema) (values : Dict Value) : PathPiece → Except Error (List Char)
  | .literal text => .ok text
  | .slot name =>
      match (values.get? (s.slotKey name)).bind Value.plainText? with
      | some text => .ok (Text.percentEncode text).toList
      | none => .error (.invalidRequest (s.kind ++ " requires '" ++ name ++ "' to build its path"))

def fillPieces (s : Schema) (values : Dict Value) : List PathPiece → Except Error (List Char)
  | [] => .ok []
  | piece :: rest =>
      match s.fillPiece values piece with
      | .error e => .error e
      | .ok text => (s.fillPieces values rest).map (text ++ ·)

def collectionPath (s : Schema) (values : Dict Value) : Except Error String :=
  (s.fillPieces values (pathPieces none s.basePath.toList)).map String.ofList

end Schema

end ControlPlane
