import ControlPlane.Decimal.Double

namespace ControlPlane

-- The decimal `digits * 10 ^ exponent`.
structure Decimal where
  digits : Nat
  exponent : Int
  deriving DecidableEq, Repr, Inhabited

structure RoundingInterval where
  low : Nat
  mid : Nat
  high : Nat
  unit : Nat
  closed : Bool
  deriving Repr

def Double.interval (x : Double) : RoundingInterval :=
  let below := if x.mantissa = power 2 52 ∧ -1074 < x.exponent then 1 else 2
  let e := x.exponent - 2
  let up := power 2 e.toNat
  { low := (4 * x.mantissa - below) * up
    mid := 4 * x.mantissa * up
    high := (4 * x.mantissa + 2) * up
    unit := power 2 (-e).toNat
    closed := x.mantissa % 2 == 0 }

def RoundingInterval.onGrid (r : RoundingInterval) (g : Int) : RoundingInterval :=
  let up := power 10 (-g).toNat
  { r with
    low := r.low * up, mid := r.mid * up, high := r.high * up
    unit := r.unit * power 10 g.toNat }

def RoundingInterval.holds (r : RoundingInterval) (n : Nat) : Bool :=
  let p := n * r.unit
  if r.closed then r.low ≤ p && p ≤ r.high else r.low < p && p < r.high

def RoundingInterval.pick (r : RoundingInterval) : Option Nat :=
  let below := r.mid / r.unit
  let above := below + 1
  match r.holds below, r.holds above with
  | false, false => none
  | true, false => some below
  | false, true => some above
  | true, true =>
      let gap := 2 * (r.mid - below * r.unit)
      if gap < r.unit then some below
      else if r.unit < gap then some above
      else some (if below % 2 = 0 then below else above)

def RoundingInterval.wholeDigits (r : RoundingInterval) : Int :=
  (Nat.toDigits 10 (r.mid * power 10 400 / r.unit)).length - 400

def stripZeros (fuel : Nat) (d : Decimal) : Decimal :=
  match fuel with
  | 0 => d
  | fuel + 1 =>
      if d.digits % 10 = 0 then stripZeros fuel ⟨d.digits / 10, d.exponent + 1⟩ else d

def Double.shortest (x : Double) : Decimal :=
  if x.isZero then ⟨0, 0⟩
  else
    let r := x.interval
    let whole := r.wholeDigits
    let hit := (List.range 18).findSome? fun (n : Nat) =>
      (r.onGrid (whole - n)).pick.map fun d => Decimal.mk d (whole - n)
    stripZeros 20 (hit.getD ⟨0, 0⟩)

def zeros (n : Nat) : List Char := List.replicate n '0'

def Decimal.layout (d : Decimal) : List Char :=
  let digits := Nat.toDigits 10 d.digits
  let point : Int := digits.length + d.exponent
  if d.digits = 0 then ['0', '.', '0']
  else if point < -4 ∨ 16 < point then
    let fraction := if digits.length = 1 then [] else '.' :: digits.drop 1
    let power := point - 1
    digits.take 1 ++ fraction ++ ['e', if power < 0 then '-' else '+'] ++ Nat.toDigits 10 power.natAbs
  else if point ≤ 0 then ['0', '.'] ++ zeros (-point).toNat ++ digits
  else
    let whole := digits.take point.toNat
    let fraction := digits.drop point.toNat
    whole ++ zeros (point.toNat - whole.length) ++ ['.'] ++ (if fraction.isEmpty then ['0'] else fraction)

def Double.toText (x : Double) : String :=
  String.ofList ((if x.negative then ['-'] else []) ++ x.shortest.layout)

end ControlPlane
