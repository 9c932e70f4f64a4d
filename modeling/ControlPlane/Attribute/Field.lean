import ControlPlane.Error
import ControlPlane.Decimal.Literal
import ControlPlane.Json.Printer
import ControlPlane.Time.Timestamp

namespace ControlPlane

inductive Location where
  | body
  | header
  | uri
  deriving DecidableEq, Repr

inductive Format where
  | boolText
  | timestamp
  deriving DecidableEq, Repr

inductive Coercion where
  | string
  | integer
  | float
  | boolean
  | list
  | dict
  | format (f : Format)
  deriving DecidableEq, Repr

def parseBool (s : String) : Option Bool :=
  match Text.asciiLower (String.ofList (Text.trim s.toList)) with
  | "true" | "yes" | "1" | "on" => some true
  | "false" | "no" | "0" | "off" => some false
  | _ => none

def boolWord (b : Bool) : String := if b then "true" else "false"

namespace Format

def notBoolean (v : Value) : Error :=
  match v with
  | .text s => .invalidValue ("'" ++ s ++ "' is not a boolean")
  | v => .invalidValue (Json.compact v ++ " is not a boolean")

def readBool (v : Value) : Except Error Bool :=
  match v with
  | .bool b => .ok b
  | .text s =>
      match parseBool s with
      | some b => .ok b
      | none => .error (notBoolean v)
  | v => .error (notBoolean v)

def readTimestamp (v : Value) : Except Error Value :=
  match v.text?.bind Timestamp.normalize? with
  | some s => .ok (.text s)
  | none => .error (.invalidValue (Json.compact v ++ " is not a timestamp"))

def decode : Format → Value → Except Error Value
  | .boolText, v => (readBool v).map .bool
  | .timestamp, v => readTimestamp v

def encode : Format → Value → Except Error Value
  | .boolText, v => (readBool v).map fun b => .text (boolWord b)
  | .timestamp, v => readTimestamp v

end Format

namespace Coercion

def name : Coercion → String
  | .string => "String"
  | .integer => "Integer"
  | .float => "Float"
  | .boolean => "Boolean"
  | .list => "List"
  | .dict => "Dict"
  | .format .boolText => "Format(BoolStr)"
  | .format .timestamp => "Format(Timestamp)"

def admits : Coercion → Value → Bool
  | .string, .text _ => true
  | .integer, .integer _ => true
  | .float, .integer _ => true
  | .float, .float _ => true
  | .boolean, .bool _ => true
  | .list, .list _ => true
  | .dict, .record _ => true
  | _, _ => false

def inWord (n : Int) : Option Value :=
  if -(power 2 63) ≤ n ∧ n < power 2 63 then some (.integer n) else none

def toText? : Value → Option Value
  | .text s => some (.text s)
  | .integer n => some (.text (String.ofList (Json.integerText n)))
  | .float x => some (.text x.toText)
  | .bool b => some (.text (boolWord b))
  | _ => none

def toInteger? : Value → Option Value
  | .integer n => some (.integer n)
  | .float x => x.toInt?.bind inWord
  | .text s => (readInteger? (Text.trim s.toList)).bind inWord
  | _ => none

def toFloat? : Value → Option Value
  | .integer n => some (.integer n)
  | .float x => some (.float x)
  | .text s => (readDouble? (Text.trim s.toList)).map .float
  | _ => none

def toBoolean? : Value → Option Value
  | .bool b => some (.bool b)
  | .text s => (parseBool s).map .bool
  | .integer n => if n = 0 then some (.bool false) else if n = 1 then some (.bool true) else none
  | _ => none

def convert? : Coercion → Value → Option Value
  | .string, v => toText? v
  | .integer, v => toInteger? v
  | .float, v => toFloat? v
  | .boolean, v => toBoolean? v
  | .list, .list items => some (.list items)
  | .dict, .record entries => some (.record entries)
  | _, _ => none

def convert (c : Coercion) (v : Value) : Except Error Value :=
  match c with
  | .format f => f.decode v
  | c =>
      match c.convert? v with
      | some w => .ok w
      | none => .error (.invalidValue ("cannot convert " ++ Json.compact v ++ " to " ++ c.name))

end Coercion

inductive Fallback where
  | null
  | bool (b : Bool)
  | integer (n : Int)
  | text (s : String)
  | emptyList
  | emptyRecord
  deriving DecidableEq, Repr, Inhabited

def Fallback.toValue : Fallback → Value
  | .null => .null
  | .bool b => .bool b
  | .integer n => .integer n
  | .text s => .text s
  | .emptyList => .list []
  | .emptyRecord => .record []

structure Field where
  name : String
  wire : String := name
  location : Location := .body
  coercion : Option Coercion := none
  fallback : Fallback := .null
  alternateId : Bool := false
  deriving DecidableEq, Repr, Inhabited

namespace Field

def plain (name : String) : Field := { name := name }

def renamed (name wire : String) : Field := { name := name, wire := wire }

def as (f : Field) (c : Coercion) : Field := { f with coercion := some c }

def timestamp (name wire : String) : Field := (renamed name wire).as (.format .timestamp)

def readPresent (f : Field) (v : Value) : Except Error Value :=
  match f.coercion with
  | none => .ok v
  | some c =>
      if v.isNull || c.admits v then .ok v
      else (c.convert v).mapError fun e => .invalidValue (f.name ++ ": " ++ e.message)

def read (f : Field) : Option Value → Except Error Value
  | none => .ok f.fallback.toValue
  | some v => f.readPresent v

def write (f : Field) (v : Value) : Except Error Value :=
  match f.coercion with
  | none => .ok v
  | some c =>
      if v.isNull || v.same f.fallback.toValue then .ok v
      else
        match c with
        | .format format => format.encode v
        | c => if c.admits v then .ok v else c.convert v

end Field

end ControlPlane
