/-
Moments in universal time, from a clock that counts seconds since the start of 1970. The clock is rounded to millionths
of a second, a half to the even one, and cut to seconds. Days are counted in the Gregorian calendar: 146097 days are 400
years, and a year is taken to begin in March, so that the leap day is its last.
A moment lies in the years 1 to 9999 (`ofParts`). A clock may show more than 2^63 seconds, or a year that a word of 32 bits
does not hold when it is counted from 1900; both are refused before the year is looked at.
-/
import TileCrew.Arithmetic.Binary64
import TileCrew.Decimal.Conversion

namespace TileCrew

/-- a second of a day -/
structure Moment where
  year : Int
  month : Nat
  day : Nat
  hour : Nat
  minute : Nat
  second : Nat
deriving DecidableEq, Repr

namespace Moment

/-! ## Parts -/

/-- why there is no such moment -/
inductive Invalid where
  /-- a clock without value -/
  | noClock
  /-- a clock of too many seconds -/
  | seconds
  /-- a clock of too many years -/
  | years
  /-- a part that no word holds -/
  | word (n : Int)
  | year (n : Int)
  | month
  | day
  | hour
  | minute
  | second
  | microsecond
deriving DecidableEq, Repr

/-- an integer that a word of so many bits holds, with a sign -/
def fitsWord (bits : Nat) (n : Int) : Bool := -(2 ^ (bits - 1) : Int) ≤ n && n < 2 ^ (bits - 1)

/-- how a part that no word holds is put -/
def wordMessage (n : Int) : String :=
  if !fitsWord 64 n then "Python int too large to convert to C long"
  else if 0 < n then "signed integer is greater than maximum"
  else "signed integer is less than minimum"

def Invalid.message : Invalid → String
  | .noClock => "Invalid value NaN (not a number)"
  | .seconds => "timestamp out of range for platform time_t"
  | .years => "[Errno 75] Value too large for defined data type"
  | .word n => wordMessage n
  | .year n => "year " ++ toString n ++ " is out of range"
  | .month => "month must be in 1..12"
  | .day => "day is out of range for month"
  | .hour => "hour must be in 0..23"
  | .minute => "minute must be in 0..59"
  | .second => "second must be in 0..59"
  | .microsecond => "microsecond must be in 0..999999"

def isLeap (year : Int) : Bool := year % 4 = 0 && (year % 100 != 0 || year % 400 = 0)

def daysIn (year month : Int) : Int :=
  if month = 2 then (if isLeap year then 29 else 28)
  else if month = 4 ∨ month = 6 ∨ month = 9 ∨ month = 11 then 30
  else 31

/-- a part that lies between two bounds -/
def between (low high part : Int) (fault : Invalid) : Except Invalid Unit :=
  if low ≤ part ∧ part ≤ high then .ok () else .error fault

def ofParts (year month day hour minute second : Int) (microsecond : Int := 0) : Except Invalid Moment := do
  match [year, month, day, hour, minute, second, microsecond].find? fun n => !fitsWord 32 n with
  | some n => throw (.word n)
  | none => pure ()
  between 1 9999 year (.year year)
  between 1 12 month .month
  between 1 (daysIn year month) day .day
  between 0 23 hour .hour
  between 0 59 minute .minute
  between 0 59 second .second
  between 0 999999 microsecond .microsecond
  return ⟨year, month.toNat, day.toNat, hour.toNat, minute.toNat, second.toNat⟩

/-! ## From a clock -/

/-- millionths in the fraction of a number of seconds: their product, a double, rounded to an integer -/
def millionths (v : Binary64.Exact) : Nat :=
  let (num, den) := v.ratio
  match (Binary64.nearest? (num % den * 1000000) den).map Binary64.value with
  | some (.finite product) => Arithmetic.roundDiv product.ratio.1 product.ratio.2
  | _ => 0

/-- whole seconds on a clock of that value -/
def wholeSeconds (v : Binary64.Exact) : Int :=
  let n : Int := millionths v
  (v.truncate * 1000000 + if v.negative then -n else n).fdiv 1000000

/-- the most seconds that a clock may be away from the start of 1970 -/
def secondsLimit : Nat := 2 ^ 63

def secondsOf (clock : Float) : Except Invalid Int :=
  match Binary64.value clock with
  | .nan => .error .noClock
  | .infinite _ => .error .seconds
  | .finite v =>
    let n := wholeSeconds v
    if n.natAbs ≤ secondsLimit then .ok n else .error .seconds

/-- the date of a day counted from the start of 1970: year, month, day -/
def dateOf (day : Int) : Int × Nat × Nat :=
  let z := day + 719468
  let era := z.fdiv 146097
  let inEra := (z - era * 146097).toNat
  let year := (inEra - inEra / 1460 + inEra / 36524 - inEra / 146096) / 365
  let inYear := inEra - (365 * year + year / 4 - year / 100)
  let march := (5 * inYear + 2) / 153
  let dayOfMonth := inYear - (153 * march + 2) / 5 + 1
  let month := if march < 10 then march + 3 else march - 9
  (era * 400 + year + (if month ≤ 2 then 1 else 0), month, dayOfMonth)

/-- the year from which years are counted in a word -/
def yearBase : Int := 1900

/-- the moment of a second counted from the start of 1970; a year is told as a word has it -/
def ofSeconds (seconds : Int) : Except Invalid Moment :=
  let day := seconds.fdiv 86400
  let inDay := seconds - day * 86400
  let (year, month, dayOfMonth) := dateOf day
  if fitsWord 32 (year - yearBase) then
    ofParts (year.bmod (2 ^ 32)) month dayOfMonth (inDay / 3600) (inDay / 60 % 60) (inDay % 60)
  else .error .years

def ofClock (clock : Float) : Except Invalid Moment := (secondsOf clock).bind ofSeconds

/-! ## Written forms -/

/-- a number of two digits at least -/
def pair (n : Nat) : String := String.ofList ((Decimal.digitsOf n).leftpad 2 '0')

def monthAndDay (m : Moment) : String := "-" ++ pair m.month ++ "-" ++ pair m.day

/-- the name of a run that starts at a moment -/
def runId (m : Moment) : String :=
  toString m.year ++ m.monthAndDay ++ "T" ++ pair m.hour ++ "-" ++ pair m.minute ++ "-" ++ pair m.second ++ "Z"

/-- a moment in the international form, with its offset -/
def iso (m : Moment) : String :=
  String.ofList ((Decimal.digitsOf m.year.toNat).leftpad 4 '0') ++ m.monthAndDay ++ "T" ++ pair m.hour ++ ":" ++
    pair m.minute ++ ":" ++ pair m.second ++ "+00:00"

end Moment

end TileCrew
