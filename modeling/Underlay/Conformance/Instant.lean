/-!
Instants since the beginning of 1970, and their text in the calendar: year, month, day, hour,
minute, second and millisecond. Years are counted from March, so that a leap day is the last day
of its year, in cycles of four hundred years.
-/

namespace Underlay

structure Instant where
  seconds : Nat := 0
  milliseconds : Nat := 0
deriving DecidableEq, Repr, Inhabited

/-- A number in base ten, filled with zeros in front up to `width` digits. -/
def decimal (width n : Nat) : String :=
  let digits := Nat.toDigits 10 n
  String.ofList (List.replicate (width - digits.length) '0' ++ digits)

structure Date where
  year : Nat
  month : Nat
  day : Nat
deriving DecidableEq, Repr, Inhabited

namespace Date

/-- Days from the first of March of the year zero to the beginning of 1970. -/
def daysBefore : Nat := 719468

/-- Days of four hundred years. -/
def cycle : Nat := 146097

/-- The date that lies the given number of days after the beginning of 1970. -/
def ofDays (days : Nat) : Date :=
  let shifted := days + daysBefore
  let inCycle := shifted % cycle
  let yearOfCycle := (inCycle - inCycle / 1460 + inCycle / 36524 - inCycle / 146096) / 365
  let dayOfYear := inCycle - (365 * yearOfCycle + yearOfCycle / 4 - yearOfCycle / 100)
  let fromMarch := (5 * dayOfYear + 2) / 153
  let month := if fromMarch < 10 then fromMarch + 3 else fromMarch - 9
  { year := yearOfCycle + shifted / cycle * 400 + if month ≤ 2 then 1 else 0
    month
    day := dayOfYear - (153 * fromMarch + 2) / 5 + 1 }

def render (date : Date) : String :=
  decimal 4 date.year ++ "-" ++ decimal 2 date.month ++ "-" ++ decimal 2 date.day

end Date

namespace Instant

/-- The instant of a clock; a clock that shows a time before 1970 counts as showing its
beginning. -/
def ofClock (seconds : Int) (nanoseconds : Nat) : Instant :=
  if seconds < 0 then
    {}
  else
    { seconds := seconds.toNat, milliseconds := nanoseconds / 1000000 }

def render (i : Instant) : String :=
  let rest := i.seconds % 86400
  (Date.ofDays (i.seconds / 86400)).render ++ "T" ++ decimal 2 (rest / 3600) ++ ":" ++
    decimal 2 (rest % 3600 / 60) ++ ":" ++ decimal 2 (rest % 60) ++ "." ++
    decimal 3 i.milliseconds ++ "Z"

end Instant

end Underlay
