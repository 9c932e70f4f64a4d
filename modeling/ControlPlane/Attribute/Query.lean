import ControlPlane.Error
import ControlPlane.Json.Printer

namespace ControlPlane

structure QueryMapping where
  names : Dict String
  deriving DecidableEq, Repr

namespace QueryMapping

def pageParameters : List String := ["limit", "marker"]

def ofNames (names : List String) : QueryMapping :=
  ⟨.ofList ((pageParameters ++ names).map fun n => (n, n))⟩

def rename (m : QueryMapping) (client server : String) : QueryMapping :=
  ⟨m.names.insert client server⟩

def accepts (m : QueryMapping) (name : String) : Bool := m.names.contains name

end QueryMapping

def joinWith (separator : String) : List String → String
  | [] => ""
  | [s] => s
  | s :: t :: rest => s ++ separator ++ joinWith separator (t :: rest)

mutual

def queryText? : Value → Option String
  | .null => none
  | .text s => some s
  | .list items => some (joinWith "," (queryTexts items))
  | v => some (Json.compact v)

def queryTexts : List Value → List String
  | [] => []
  | v :: rest =>
      match queryText? v with
      | some s => s :: queryTexts rest
      | none => queryTexts rest

end

def QueryMapping.pairs (m : QueryMapping) :
    List (String × Value) → Except Error (List (String × String))
  | [] => .ok []
  | (name, value) :: rest =>
      match m.names.get? name with
      | none => .error (.invalidRequest ("invalid query parameter '" ++ name ++ "'"))
      | some server =>
          match m.pairs rest with
          | .error e => .error e
          | .ok pairs =>
              match queryText? value with
              | some text => .ok ((server, text) :: pairs)
              | none => .ok pairs

def QueryMapping.transpose (m : QueryMapping) (params : Dict Value) :
    Except Error (List (String × String)) :=
  m.pairs params.entries

end ControlPlane
