import ControlPlane.Decimal.Double

namespace ControlPlane

def decimalValue (digits : List Char) : Nat :=
  digits.foldl (fun n c => n * 10 + (c.toNat - '0'.toNat)) 0

def readSign : List Char → Bool × List Char
  | '-' :: rest => (true, rest)
  | '+' :: rest => (false, rest)
  | rest => (false, rest)

def signed (negative : Bool) (n : Nat) : Int := if negative then -(n : Int) else n

def readInteger? (cs : List Char) : Option Int :=
  let (negative, digits) := readSign cs
  if digits.isEmpty || !digits.all Char.isDigit then none
  else some (signed negative (decimalValue digits))

def readWord? (cs : List Char) : Option Nat :=
  if cs.head? == some '-' then none
  else (readInteger? cs).bind fun n => if n < power 2 64 then some n.toNat else none

def readExponent? : List Char → Option Int
  | [] => some 0
  | c :: rest => if c = 'e' ∨ c = 'E' then readInteger? rest else none

def readDouble? (cs : List Char) : Option Double :=
  let (negative, cs) := readSign cs
  let (whole, cs) := cs.span Char.isDigit
  let (fraction, cs) :=
    match cs with
    | '.' :: rest => rest.span Char.isDigit
    | rest => ([], rest)
  if whole.isEmpty && fraction.isEmpty then none
  else do
    let exponent ← readExponent? cs
    Double.ofDecimal negative (decimalValue (whole ++ fraction)) (exponent - fraction.length)

end ControlPlane
