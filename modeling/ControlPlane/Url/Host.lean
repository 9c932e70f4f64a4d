import ControlPlane.Text.Encoding

namespace ControlPlane

inductive Host where
  | name (labels : String)
  | v4 (address : Nat)
  | v6 (text : String)
  deriving DecidableEq, Repr

namespace Host

def dotted (address : Nat) : String :=
  let units := [power 2 24, power 2 16, power 2 8, 1]
  ".".intercalate (units.map fun unit => toString (address / unit % 256))

def text : Host → String
  | .name labels => labels
  | .v4 address => dotted address
  | .v6 text => "[" ++ text ++ "]"

def v4Number? : List Char → Option Nat
  | [] => none
  | '0' :: 'x' :: rest | '0' :: 'X' :: rest =>
      if rest.isEmpty then some 0 else Text.numeral? 16 rest
  | ['0'] => some 0
  | '0' :: rest => Text.numeral? 8 rest
  | cs => Text.numeral? 10 cs

def withoutFinalDot (labels : List (List Char)) : List (List Char) :=
  match labels.reverse with
  | [] :: rest => rest.reverse
  | _ => labels

def endsInNumber (labels : List (List Char)) : Bool :=
  match (withoutFinalDot labels).getLast? with
  | some last => (!last.isEmpty && last.all Char.isDigit) || (v4Number? last).isSome
  | none => false

def v4OfNumbers? : List Nat → Nat → Option Nat
  | [], _ => none
  | [last], bytes => if last < power 256 bytes then some last else none
  | _ :: _ :: _, 0 => none
  | n :: rest, bytes + 1 =>
      if n < 256 then (v4OfNumbers? rest bytes).map (n * power 256 bytes + ·) else none

def v4? (labels : List (List Char)) : Option Nat :=
  ((withoutFinalDot labels).mapM v4Number?).bind fun numbers => v4OfNumbers? numbers 4

def isHexGroup (cs : List Char) : Bool :=
  !cs.isEmpty && cs.length ≤ 4 && cs.all fun c => (Text.hexValue? c).isSome

def isByteText (cs : List Char) : Bool :=
  cs.all Char.isDigit && (cs == ['0'] || cs.head? != some '0') &&
    (Text.numeral? 10 cs).any (· < 256)

def isStrictV4 (cs : List Char) : Bool :=
  let parts := Text.split (· == '.') cs
  parts.length == 4 && parts.all isByteText

def groupCount? (last : Bool) (cs : List Char) : Option Nat :=
  if cs.isEmpty then some 0
  else
    let parts := Text.split (· == ':') cs
    match parts.reverse with
    | tail :: before =>
        if before.all isHexGroup then
          if isHexGroup tail then some parts.length
          else if last && isStrictV4 tail then some (parts.length + 1)
          else none
        else none
    | [] => none

def cutGap : List Char → List Char × Option (List Char)
  | ':' :: ':' :: rest => ([], some rest)
  | c :: rest =>
      let (before, after) := cutGap rest
      (c :: before, after)
  | [] => ([], none)

def isV6 (cs : List Char) : Bool :=
  match cutGap cs with
  | (all, none) => groupCount? true all == some 8
  | (before, some after) =>
      match groupCount? false before, groupCount? true after with
      | some m, some n => m + n < 8
      | _, _ => false

def isForbidden (c : Char) : Bool :=
  c.toNat ≤ 0x20 || c.toNat == 0x7F || "%#/:<>?@[\\]^|".toList.contains c

def ofName? (labels : List Char) : Option Host :=
  let labels := labels.map Char.toLower
  if labels.isEmpty || labels.any isForbidden then none
  else
    let parts := Text.split (· == '.') labels
    if endsInNumber parts then (v4? parts).map .v4 else some (.name (String.ofList labels))

def parse? (cs : List Char) : Option Host :=
  match cs with
  | '[' :: rest =>
      match rest.reverse with
      | ']' :: inner =>
          let inner := inner.reverse
          if isV6 inner then some (.v6 (Text.asciiLower (String.ofList inner))) else none
      | _ => none
  | _ => (Text.percentDecode (String.ofList cs)).bind fun name => ofName? name.toList

end Host

end ControlPlane
