import ControlPlane.Data.Dict
import ControlPlane.Decimal.Double

namespace ControlPlane

inductive Value where
  | null
  | bool (b : Bool)
  | integer (n : Int)
  | float (x : Double)
  | text (s : String)
  | list (items : List Value)
  | record (entries : List (String × Value))
  deriving Repr, Inhabited

mutual

def Value.decEq : (a b : Value) → Decidable (a = b)
  | .null, .null => isTrue rfl
  | .bool a, .bool b => decidable_of_iff (a = b) (by simp)
  | .integer a, .integer b => decidable_of_iff (a = b) (by simp)
  | .float a, .float b => decidable_of_iff (a = b) (by simp)
  | .text a, .text b => decidable_of_iff (a = b) (by simp)
  | .list a, .list b => @decidable_of_iff _ (a = b) (by simp) (decEqItems a b)
  | .record a, .record b => @decidable_of_iff _ (a = b) (by simp) (decEqEntries a b)
  | .null, .bool _ | .null, .integer _ | .null, .float _ | .null, .text _ | .null, .list _
  | .null, .record _ | .bool _, .null | .bool _, .integer _ | .bool _, .float _ | .bool _, .text _
  | .bool _, .list _ | .bool _, .record _ | .integer _, .null | .integer _, .bool _
  | .integer _, .float _ | .integer _, .text _ | .integer _, .list _ | .integer _, .record _
  | .float _, .null | .float _, .bool _ | .float _, .integer _ | .float _, .text _
  | .float _, .list _ | .float _, .record _ | .text _, .null | .text _, .bool _
  | .text _, .integer _ | .text _, .float _ | .text _, .list _ | .text _, .record _
  | .list _, .null | .list _, .bool _ | .list _, .integer _ | .list _, .float _ | .list _, .text _
  | .list _, .record _ | .record _, .null | .record _, .bool _ | .record _, .integer _
  | .record _, .float _ | .record _, .text _ | .record _, .list _ => isFalse (by simp)

def Value.decEqItems : (a b : List Value) → Decidable (a = b)
  | [], [] => isTrue rfl
  | [], _ :: _ | _ :: _, [] => isFalse (by simp)
  | a :: as, b :: bs =>
      @decidable_of_iff _ (a = b ∧ as = bs) (by simp)
        (@instDecidableAnd _ _ (Value.decEq a b) (decEqItems as bs))

def Value.decEqEntries : (a b : List (String × Value)) → Decidable (a = b)
  | [], [] => isTrue rfl
  | [], _ :: _ | _ :: _, [] => isFalse (by simp)
  | (k, a) :: as, (l, b) :: bs =>
      @decidable_of_iff _ (k = l ∧ a = b ∧ as = bs) (by simp [and_assoc])
        (@instDecidableAnd _ _ inferInstance
          (@instDecidableAnd _ _ (Value.decEq a b) (decEqEntries as bs)))

end

instance : DecidableEq Value := Value.decEq

mutual

-- Equality of values in which the two zeros of a float count as one.
def Value.same : Value → Value → Bool
  | .null, .null => true
  | .bool a, .bool b => a == b
  | .integer a, .integer b => a == b
  | .float a, .float b => a.same b
  | .text a, .text b => a == b
  | .list a, .list b => sameItems a b
  | .record a, .record b => sameEntries a b
  | _, _ => false

def Value.sameItems : List Value → List Value → Bool
  | [], [] => true
  | a :: as, b :: bs => a.same b && sameItems as bs
  | _, _ => false

def Value.sameEntries : List (String × Value) → List (String × Value) → Bool
  | [], [] => true
  | (k, a) :: as, (l, b) :: bs => k == l && a.same b && sameEntries as bs
  | _, _ => false

end

namespace Value

def ofDict (d : Dict Value) : Value := .record d.entries

def emptyRecord : Value := .record []

def isNull : Value → Bool
  | .null => true
  | _ => false

def text? : Value → Option String
  | .text s => some s
  | _ => none

def bool? : Value → Option Bool
  | .bool b => some b
  | _ => none

def record? : Value → Option (Dict Value)
  | .record entries => some (.ofList entries)
  | _ => none

def member? (v : Value) (key : String) : Option Value :=
  match v with
  | .record entries => (entries.find? fun e => e.1 == key).map (·.2)
  | _ => none

def word? : Value → Option Int
  | .integer n => if -(power 2 63) ≤ n ∧ n < power 2 63 then some n else none
  | _ => none

def natural? : Value → Option Nat
  | .integer n => if 0 ≤ n then some n.toNat else none
  | _ => none

end Value

end ControlPlane
