import ControlPlane.Basic

namespace ControlPlane

-- A date and a time of day; `second` is 60 and `nano` counts on from it during a leap second.
structure Moment where
  year : Int
  month : Nat
  day : Nat
  hour : Nat
  minute : Nat
  second : Nat
  nano : Nat
  deriving DecidableEq, Repr

structure Instant where
  second : Int
  nano : Nat
  deriving DecidableEq, Repr

def isLeapYear (year : Int) : Bool :=
  year % 4 == 0 && (year % 100 != 0 || year % 400 == 0)

def daysInMonth (year : Int) (month : Nat) : Nat :=
  match month with
  | 2 => if isLeapYear year then 29 else 28
  | 4 | 6 | 9 | 11 => 30
  | _ => 31

def daysFromDate (year : Int) (month day : Nat) : Int :=
  let y := if month ≤ 2 then year - 1 else year
  let era := y / 400
  let yearOfEra := y % 400
  let monthFromMarch : Int := (month + 9) % 12
  let dayOfYear := (153 * monthFromMarch + 2) / 5 + day - 1
  let dayOfEra := yearOfEra * 365 + yearOfEra / 4 - yearOfEra / 100 + dayOfYear
  era * 146097 + dayOfEra - 719468

def dateFromDays (days : Int) : Int × Nat × Nat :=
  let z := days + 719468
  let era := z / 146097
  let dayOfEra := z % 146097
  let yearOfEra := (dayOfEra - dayOfEra / 1460 + dayOfEra / 36524 - dayOfEra / 146096) / 365
  let dayOfYear := dayOfEra - (365 * yearOfEra + yearOfEra / 4 - yearOfEra / 100)
  let monthFromMarch := (5 * dayOfYear + 2) / 153
  let day := dayOfYear - (153 * monthFromMarch + 2) / 5 + 1
  let month := if monthFromMarch < 10 then monthFromMarch + 3 else monthFromMarch - 9
  let year := yearOfEra + era * 400 + (if month ≤ 2 then 1 else 0)
  (year, month.toNat, day.toNat)

def Moment.isValid (m : Moment) : Bool :=
  1 ≤ m.month && m.month ≤ 12 && 1 ≤ m.day && m.day ≤ daysInMonth m.year m.month &&
    m.hour ≤ 23 && m.minute ≤ 59 && m.second ≤ 60 && m.nano < power 10 9

def Moment.toInstant (m : Moment) (offset : Int) : Instant :=
  let second := if m.second = 60 then 59 else m.second
  { second :=
      daysFromDate m.year m.month m.day * 86400 + m.hour * 3600 + m.minute * 60 + second - offset
    nano := if m.second = 60 then m.nano + power 10 9 else m.nano }

def Instant.toMoment (i : Instant) : Moment :=
  let (year, month, day) := dateFromDays (i.second / 86400)
  let time := (i.second % 86400).toNat
  let leap := power 10 9 ≤ i.nano
  { year := year, month := month, day := day, hour := time / 3600, minute := time / 60 % 60
    second := if leap then time % 60 + 1 else time % 60
    nano := if leap then i.nano - power 10 9 else i.nano }

end ControlPlane
