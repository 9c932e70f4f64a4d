import ControlPlane.Basic
import ControlPlane.Time.Instant

namespace ControlPlane.Timestamp

def digitsValue (digits : List Char) : Nat :=
  digits.foldl (fun n c => n * 10 + (c.toNat - '0'.toNat)) 0

def number? (most : Nat) (cs : List Char) : Option (Nat × List Char) :=
  let digits := (cs.take most).takeWhile Char.isDigit
  if digits.isEmpty then none else some (digitsValue digits, cs.drop digits.length)

def fixed? (count : Nat) (cs : List Char) : Option (Nat × List Char) :=
  let digits := (cs.take count).takeWhile Char.isDigit
  if digits.length = count then some (digitsValue digits, cs.drop count) else none

def literal? (c : Char) : List Char → Option (List Char)
  | [] => none
  | d :: rest => if d = c then some rest else none

def fraction? : List Char → Option (Nat × List Char)
  | '.' :: rest =>
      let digits := rest.takeWhile Char.isDigit
      if digits.isEmpty then none
      else
        let kept := digits.take 9
        some (digitsValue kept * power 10 (9 - kept.length), rest.drop digits.length)
  | rest => some (0, rest)

def offset? : List Char → Option (Int × List Char)
  | [] => none
  | c :: rest =>
      if c = 'Z' ∨ c = 'z' then some (0, rest)
      else if c = '+' ∨ c = '-' ∨ c = '−' then do
        let (hours, rest) ← fixed? 2 rest
        let rest ← literal? ':' rest
        let (minutes, rest) ← fixed? 2 rest
        let seconds : Int := hours * 3600 + minutes * 60
        if minutes ≤ 59 ∧ hours ≤ 23 then
          some (if c = '+' then seconds else -seconds, rest)
        else none
      else none

def ended {α : Type} (result : α) : List Char → Option α
  | [] => some result
  | _ => none

def separator? : List Char → Option (List Char)
  | c :: rest => if c = 'T' ∨ c = 't' ∨ c = ' ' then some rest else none
  | [] => none

def withOffset? (cs : List Char) : Option Instant := do
  let (year, cs) ← fixed? 4 cs
  let (month, cs) ← fixed? 2 (← literal? '-' cs)
  let (day, cs) ← fixed? 2 (← literal? '-' cs)
  let (hour, cs) ← fixed? 2 (← separator? cs)
  let (minute, cs) ← fixed? 2 (← literal? ':' cs)
  let (second, cs) ← fixed? 2 (← literal? ':' cs)
  let (nano, cs) ← fraction? cs
  let (offset, cs) ← offset? cs
  let moment : Moment := ⟨year, month, day, hour, minute, second, nano⟩
  if moment.isValid then ended (moment.toInstant offset) cs else none

def year? (cs : List Char) : Option (Int × List Char) :=
  match cs with
  | '-' :: rest => (number? rest.length rest).map fun (n, rest) => (-(n : Int), rest)
  | '+' :: rest => (number? rest.length rest).map fun (n, rest) => ((n : Int), rest)
  | cs => (number? 4 cs).map fun (n, rest) => ((n : Int), rest)

def firstYear : Int := -262143

def lastYear : Int := 262142

def spaced? (cs : List Char) : Option (Nat × List Char) := number? 2 (Text.trimStart cs)

def local? (between : List Char → Option (List Char)) (cs : List Char) : Option Instant := do
  let (year, cs) ← year? (Text.trimStart cs)
  let (month, cs) ← spaced? (← literal? '-' cs)
  let (day, cs) ← spaced? (← literal? '-' cs)
  let (hour, cs) ← spaced? (← between cs)
  let (minute, cs) ← spaced? (← literal? ':' cs)
  let (second, cs) ← spaced? (← literal? ':' cs)
  let (nano, cs) ← fraction? cs
  let moment : Moment := ⟨year, month, day, hour, minute, second, nano⟩
  if moment.isValid && firstYear ≤ year && year ≤ lastYear then ended (moment.toInstant 0) cs else none

def read? (s : String) : Option Instant :=
  (withOffset? s.toList).orElse fun _ =>
    (local? (literal? 'T') s.toList).orElse fun _ =>
      local? (fun cs => some (Text.trimStart cs)) s.toList

def padded (width n : Nat) : List Char :=
  let digits := Nat.toDigits 10 n
  List.replicate (width - digits.length) '0' ++ digits

def yearText (year : Int) : List Char :=
  if 0 ≤ year ∧ year ≤ 9999 then padded 4 year.toNat
  else (if year < 0 then '-' else '+') :: padded 4 year.natAbs

def fractionText (nano : Nat) : List Char :=
  if nano = 0 then []
  else if nano % power 10 6 = 0 then '.' :: padded 3 (nano / power 10 6)
  else if nano % power 10 3 = 0 then '.' :: padded 6 (nano / power 10 3)
  else '.' :: padded 9 nano

def momentText (m : Moment) : List Char :=
  yearText m.year ++ '-' :: padded 2 m.month ++ '-' :: padded 2 m.day ++
    'T' :: padded 2 m.hour ++ ':' :: padded 2 m.minute ++ ':' :: padded 2 m.second ++
    fractionText m.nano ++ ['Z']

def write (i : Instant) : String := String.ofList (momentText i.toMoment)

def normalize? (s : String) : Option String := (read? s).map write

end ControlPlane.Timestamp
