import ControlPlane.Data.Value
import ControlPlane.Basic

namespace ControlPlane

inductive PatchStep where
  | add (path : String) (value : Value)
  | remove (path : String)
  deriving DecidableEq, Repr

def PatchStep.toValue : PatchStep → Value
  | .add path value => .record [("op", .text "add"), ("path", .text path), ("value", value)]
  | .remove path => .record [("op", .text "remove"), ("path", .text path)]

def patchValue (steps : List PatchStep) : Value := .list (steps.map PatchStep.toValue)

namespace Pointer

def unescape : List Char → Option (List Char)
  | [] => some []
  | '~' :: '0' :: rest => (unescape rest).map ('~' :: ·)
  | '~' :: '1' :: rest => (unescape rest).map ('/' :: ·)
  | c :: rest => if c = '~' then none else (unescape rest).map (c :: ·)

def keys? (path : String) : Option (List String) :=
  match Text.split (· == '/') path.toList with
  | [] :: keys => keys.mapM fun key => (unescape key).map String.ofList
  | _ => none

end Pointer

-- The position that a key of a list names; a dash names the one after the last.
def listPosition? (size : Nat) (key : String) : Option Nat :=
  if key = "-" then some size
  else
    let digits := key.toList
    if digits.isEmpty || !digits.all Char.isDigit || (digits.head? == some '0' && digits.length != 1) then
      none
    else some (digits.foldl (fun n c => n * 10 + (c.toNat - '0'.toNat)) 0)

namespace Value

def changeMember? (change : Value → Option Value) (key : String) : Value → Option Value
  | .record entries => do
      let d : Dict Value := .ofList entries
      let v ← d.get? key
      pure (.ofDict (d.insert key (← change v)))
  | .list items => do
      let i ← listPosition? items.length key
      let v ← items[i]?
      pure (.list (items.set i (← change v)))
  | _ => none

def addMember? (value : Value) (key : String) : Value → Option Value
  | .record entries => some (.ofDict ((Dict.ofList entries).insert key value))
  | .list items => do
      let i ← listPosition? items.length key
      if i ≤ items.length then some (.list (items.insertIdx i value)) else none
  | _ => none

def removeMember? (key : String) : Value → Option Value
  | .record entries =>
      let d : Dict Value := .ofList entries
      if d.contains key then some (.ofDict (d.erase key)) else none
  | .list items => do
      let i ← listPosition? items.length key
      if i < items.length then some (.list (items.eraseIdx i)) else none
  | _ => none

def addAt? (value : Value) : List String → Value → Option Value
  | [], _ => some value
  | [key], v => Value.addMember? value key v
  | key :: rest, v => v.changeMember? (addAt? value rest) key

def removeAt? : List String → Value → Option Value
  | [], _ => none
  | [key], v => v.removeMember? key
  | key :: rest, v => v.changeMember? (removeAt? rest) key

end Value

def PatchStep.run? : PatchStep → Value → Option Value
  | .add path value, v => (Pointer.keys? path).bind fun keys => Value.addAt? value keys v
  | .remove path, v => (Pointer.keys? path).bind fun keys => v.removeAt? keys

def applyPatch? (steps : List PatchStep) (v : Value) : Option Value :=
  steps.foldlM (fun v step => step.run? v) v

end ControlPlane
