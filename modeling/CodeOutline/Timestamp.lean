/-!
# Points in time

A point in time is written in UTC by date and time of day, with as many groups of three places
behind the seconds as it takes.

## Main definitions

* `Timestamp`: seconds since the start of 1970, and nanoseconds
* `Timestamp.civil`: the date of a day
* `Timestamp.display`: the written form
-/

namespace CodeOutline

/-- A point in time: seconds since the start of 1970, and nanoseconds. From a billion on, the
nanoseconds belong to a leap second. -/
structure Timestamp where
  seconds : Int
  nanoseconds : Nat
deriving DecidableEq, Repr

namespace Timestamp

/-- Year, month and day of a day counted from the first of January 1970. The year is taken to start
with March, so that a leap day is its last day, and 400 years are a cycle of 146097 days. -/
def civil (day : Int) : Int × Nat × Nat :=
  let shifted := day + 719468
  let cycle := shifted / 146097
  let dayOfCycle := (shifted % 146097).toNat
  let yearOfCycle :=
    (dayOfCycle - dayOfCycle / 1460 + dayOfCycle / 36524 - dayOfCycle / 146096) / 365
  let dayOfYear := dayOfCycle - (365 * yearOfCycle + yearOfCycle / 4 - yearOfCycle / 100)
  let shiftedMonth := (5 * dayOfYear + 2) / 153
  let day := dayOfYear - (153 * shiftedMonth + 2) / 5 + 1
  let month := if shiftedMonth < 10 then shiftedMonth + 3 else shiftedMonth - 9
  let year := cycle * 400 + yearOfCycle + (if month ≤ 2 then 1 else 0)
  (year, month, day)

/-- A number with zeros in front, up to so many places. -/
def padded (places n : Nat) : String :=
  let digits := toString n
  String.ofList (List.replicate (places - digits.length) '0') ++ digits

/-- A year with four places, and with a sign if four places are not enough or it is negative. -/
def displayYear (year : Int) : String :=
  if 0 ≤ year ∧ year ≤ 9999 then padded 4 year.toNat
  else (if year < 0 then "-" else "+") ++ padded 4 year.natAbs

/-- The places behind the seconds: none, three, six or nine. -/
def displayFraction (nanoseconds : Nat) : String :=
  if nanoseconds = 0 then ""
  else if nanoseconds % 1000000 = 0 then "." ++ padded 3 (nanoseconds / 1000000)
  else if nanoseconds % 1000 = 0 then "." ++ padded 6 (nanoseconds / 1000)
  else "." ++ padded 9 nanoseconds

/-- Date and time of day in UTC. -/
def display (time : Timestamp) : String :=
  let (year, month, day) := civil (time.seconds / 86400)
  let secondOfDay := (time.seconds % 86400).toNat
  let leap := time.nanoseconds / 1000000000
  displayYear year ++ "-" ++ padded 2 month ++ "-" ++ padded 2 day ++ "T"
    ++ padded 2 (secondOfDay / 3600) ++ ":" ++ padded 2 (secondOfDay / 60 % 60) ++ ":"
    ++ padded 2 (secondOfDay % 60 + leap) ++ displayFraction (time.nanoseconds % 1000000000) ++ "Z"

end Timestamp

end CodeOutline
