import ControlPlane.Basic

namespace ControlPlane

-- A finite double, `mantissa * 2 ^ exponent`, negated when `negative`.
structure Double where
  negative : Bool
  mantissa : Nat
  exponent : Int
  deriving DecidableEq, Repr, Inhabited

namespace Double

def zero (negative : Bool) : Double := ⟨negative, 0, -1074⟩

def isZero (x : Double) : Bool := x.mantissa == 0

def same (x y : Double) : Bool := x == y || (x.isZero && y.isZero)

def neg (x : Double) : Double := { x with negative := !x.negative }

def roundDiv (num den : Nat) : Nat :=
  let q := num / den
  let r := num % den
  if 2 * r < den then q else if den < 2 * r then q + 1 else q + q % 2

def unscale (num den : Nat) (e : Int) : Nat × Nat :=
  if 0 ≤ e then (num, den * power 2 e.toNat) else (num * power 2 (-e).toNat, den)

def nearest (negative : Bool) (num den : Nat) : Option Double :=
  if num = 0 then some (zero negative)
  else
    let guess := max ((num.log2 : Int) - den.log2 - 53) (-1074)
    let scaled := unscale num den guess
    let e := if scaled.1 / scaled.2 < power 2 53 then guess else guess + 1
    let scaled := unscale num den e
    let m := roundDiv scaled.1 scaled.2
    let (m, e) := if m = power 2 53 then (power 2 52, e + 1) else (m, e)
    if 971 < e then none else some ⟨negative, m, e⟩

def ofScaled (negative : Bool) (num den : Nat) (e : Int) : Option Double :=
  let scaled := unscale num den (-e)
  nearest negative scaled.1 scaled.2

def mul (x y : Double) : Option Double :=
  ofScaled (x.negative != y.negative) (x.mantissa * y.mantissa) 1 (x.exponent + y.exponent)

def div (x y : Double) : Option Double :=
  if y.isZero then none
  else ofScaled (x.negative != y.negative) x.mantissa y.mantissa (x.exponent - y.exponent)

def ofNat (n : Nat) : Option Double := nearest false n 1

def toInt? (x : Double) : Option Int :=
  let magnitude :=
    if 0 ≤ x.exponent then some (x.mantissa * power 2 x.exponent.toNat)
    else
      let d := power 2 (-x.exponent).toNat
      if x.mantissa % d = 0 then some (x.mantissa / d) else none
  magnitude.map fun n => if x.negative then -(n : Int) else n

def ofDecimal (negative : Bool) (digits : Nat) (exponent : Int) : Option Double :=
  let size : Int := (Nat.toDigits 10 digits).length
  if digits = 0 ∨ size + exponent < -330 then some (zero negative)
  else if 310 < size + exponent then none
  else if 0 ≤ exponent then nearest negative (digits * power 10 exponent.toNat) 1
  else nearest negative digits (power 10 (-exponent).toNat)

def scaleByTen (x : Double) (exponent : Int) : Option Double :=
  if x.isZero then some x
  else if 308 < exponent then none
  else if 0 ≤ exponent then do x.mul (← ofNat (power 10 exponent.toNat))
  else if -308 ≤ exponent then do x.div (← ofNat (power 10 (-exponent).toNat))
  else do
    let y ← x.div (← ofNat (power 10 308))
    y.scaleByTen (exponent + 308)
termination_by (-exponent).toNat
decreasing_by omega

def ofSignificand (negative : Bool) (significand : Nat) (exponent : Int) : Option Double := do
  let x ← (← ofNat significand).scaleByTen exponent
  pure { x with negative := negative }

end Double

end ControlPlane
