import ControlPlane.Data.Value
import ControlPlane.Basic

namespace ControlPlane.Json

def isBlank (c : Char) : Bool := c == ' ' || c == '\t' || c == '\n' || c == '\r'

def skipBlanks : List Char → List Char
  | [] => []
  | c :: rest => if isBlank c then skipBlanks rest else c :: rest

def digitValue (c : Char) : Nat := c.toNat - '0'.toNat

def hexUnit? (a b c d : Char) : Option Nat := do
  let a ← Text.hexValue? a
  let b ← Text.hexValue? b
  let c ← Text.hexValue? c
  let d ← Text.hexValue? d
  pure (((a * 16 + b) * 16 + c) * 16 + d)

def simpleEscape? : Char → Option Char
  | '"' => some '"'
  | '\\' => some '\\'
  | '/' => some '/'
  | 'b' => some '\x08'
  | 'f' => some '\x0c'
  | 'n' => some '\n'
  | 'r' => some '\r'
  | 't' => some '\t'
  | _ => none

def isLeading (unit : Nat) : Bool := 0xD800 ≤ unit && unit ≤ 0xDBFF

def isTrailing (unit : Nat) : Bool := 0xDC00 ≤ unit && unit ≤ 0xDFFF

def readText : List Char → List Char → Option (String × List Char)
  | acc, '"' :: rest => some (String.ofList acc.reverse, rest)
  | acc, '\\' :: 'u' :: a :: b :: c :: d :: rest =>
      match hexUnit? a b c d with
      | none => none
      | some unit =>
          if isTrailing unit then none
          else if isLeading unit then
            match rest with
            | '\\' :: 'u' :: a :: b :: c :: d :: rest =>
                match hexUnit? a b c d with
                | none => none
                | some low =>
                    if isTrailing low then
                      let code := 0x10000 + (unit - 0xD800) * 0x400 + (low - 0xDC00)
                      readText (Char.ofNat code :: acc) rest
                    else none
            | _ => none
          else readText (Char.ofNat unit :: acc) rest
  | acc, '\\' :: c :: rest =>
      match simpleEscape? c with
      | some c => readText (c :: acc) rest
      | none => none
  | acc, c :: rest => if c.toNat < 32 || c == '\\' then none else readText (c :: acc) rest
  | _, [] => none

structure Magnitude where
  significand : Nat := 0
  exponent : Int := 0
  full : Bool := false

def Magnitude.addWhole (m : Magnitude) (c : Char) : Magnitude :=
  let next := m.significand * 10 + digitValue c
  if !m.full && next < power 2 64 then { m with significand := next }
  else { m with exponent := m.exponent + 1, full := true }

def Magnitude.addFraction (m : Magnitude) (c : Char) : Magnitude :=
  let next := m.significand * 10 + digitValue c
  if !m.full && next < power 2 64 then { m with significand := next, exponent := m.exponent - 1 }
  else { m with full := true }

def naturalOf (digits : List Char) : Nat := digits.foldl (fun n c => n * 10 + digitValue c) 0

def spanDigits (cs : List Char) : List Char × List Char := cs.span Char.isDigit

def readFraction : List Char → Option (List Char × List Char)
  | '.' :: rest =>
      match spanDigits rest with
      | ([], _) => none
      | (digits, rest) => some (digits, rest)
  | rest => some ([], rest)

def readPower (rest : List Char) (negative : Bool) : Option (Option Int × List Char) :=
  match spanDigits rest with
  | ([], _) => none
  | (digits, rest) =>
      let n : Int := naturalOf digits
      some (some (if negative then -n else n), rest)

def readExponent : List Char → Option (Option Int × List Char)
  | c :: rest =>
      if c == 'e' || c == 'E' then
        match rest with
        | '+' :: rest => readPower rest false
        | '-' :: rest => readPower rest true
        | rest => readPower rest false
      else some (none, c :: rest)
  | [] => some (none, [])

def wholeNumber (negative : Bool) (n : Nat) : Option Value :=
  if !negative && n < power 2 64 then some (.integer n)
  else if negative && 0 < n && n ≤ power 2 63 then some (.integer (-(n : Int)))
  else none

def numberValue (negative : Bool) (whole fraction : List Char) (power : Option Int) : Option Value :=
  let plain := if fraction.isEmpty && power.isNone then wholeNumber negative (naturalOf whole) else none
  match plain with
  | some v => some v
  | none =>
      let m := whole.foldl Magnitude.addWhole {}
      let m := fraction.foldl Magnitude.addFraction { m with full := false }
      (Double.ofSignificand negative m.significand (m.exponent + power.getD 0)).map .float

def readNumber (negative : Bool) (cs : List Char) : Option (Value × List Char) :=
  match spanDigits cs with
  | ([], _) => none
  | ('0' :: _ :: _, _) => none
  | (whole, rest) => do
      let (fraction, rest) ← readFraction rest
      let (power, rest) ← readExponent rest
      let v ← numberValue negative whole fraction power
      pure (v, rest)

mutual

def readValue (fuel depth : Nat) (cs : List Char) : Option (Value × List Char) :=
  match fuel with
  | 0 => none
  | fuel + 1 =>
      match skipBlanks cs with
      | 'n' :: 'u' :: 'l' :: 'l' :: rest => some (.null, rest)
      | 't' :: 'r' :: 'u' :: 'e' :: rest => some (.bool true, rest)
      | 'f' :: 'a' :: 'l' :: 's' :: 'e' :: rest => some (.bool false, rest)
      | '"' :: rest => (readText [] rest).map fun (s, rest) => (.text s, rest)
      | '-' :: rest => readNumber true rest
      | '[' :: rest =>
          if depth ≤ 1 then none
          else
            match skipBlanks rest with
            | ']' :: rest => some (.list [], rest)
            | rest => readItems fuel (depth - 1) [] rest
      | '{' :: rest =>
          if depth ≤ 1 then none
          else
            match skipBlanks rest with
            | '}' :: rest => some (.record [], rest)
            | rest => readEntries fuel (depth - 1) .empty rest
      | rest => readNumber false rest

def readItems (fuel depth : Nat) (acc : List Value) (cs : List Char) : Option (Value × List Char) :=
  match fuel with
  | 0 => none
  | fuel + 1 =>
      match readValue fuel depth cs with
      | none => none
      | some (v, rest) =>
          match skipBlanks rest with
          | ',' :: rest => readItems fuel depth (v :: acc) rest
          | ']' :: rest => some (.list (v :: acc).reverse, rest)
          | _ => none

def readEntries (fuel depth : Nat) (acc : Dict Value) (cs : List Char) : Option (Value × List Char) :=
  match fuel with
  | 0 => none
  | fuel + 1 =>
      match skipBlanks cs with
      | '"' :: rest =>
          match readText [] rest with
          | none => none
          | some (key, rest) =>
              match skipBlanks rest with
              | ':' :: rest =>
                  match readValue fuel depth rest with
                  | none => none
                  | some (v, rest) =>
                      match skipBlanks rest with
                      | ',' :: rest => readEntries fuel depth (acc.insert key v) rest
                      | '}' :: rest => some (.ofDict (acc.insert key v), rest)
                      | _ => none
              | _ => none
      | _ => none

end

def parseChars (cs : List Char) : Option Value :=
  match readValue (2 * cs.length + 1) 128 cs with
  | some (v, rest) => if (skipBlanks rest).isEmpty then some v else none
  | none => none

def parse (s : String) : Option Value := parseChars s.toList

end ControlPlane.Json
