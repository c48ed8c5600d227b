import CoreWatch.Json.Basic
import CoreWatch.Time.Span

set_option autoImplicit false

namespace CoreWatch

/-- A point in time, counted from the start of the year 1970. -/
structure Moment where
  nanos : Int
deriving DecidableEq, Repr

namespace Moment

/-- The time from one moment to a later one; zero when it is not later. -/
def since (now start : Moment) : Span :=
  ⟨(now.nanos - start.nanos).toNat⟩

def later (start : Moment) (span : Span) : Moment :=
  ⟨start.nanos + span.nanos⟩

def seconds (moment : Moment) : Int :=
  moment.nanos / 1000000000

/-- The year, month and day of a day counted from the first of January 1970. -/
def civilDate (day : Int) : Int × Int × Int :=
  let shifted := day + 719468
  let era := shifted / 146097
  let dayOfEra := shifted % 146097
  let yearOfEra := (dayOfEra - dayOfEra / 1460 + dayOfEra / 36524 - dayOfEra / 146096) / 365
  let dayOfYear := dayOfEra - (365 * yearOfEra + yearOfEra / 4 - yearOfEra / 100)
  let march := (5 * dayOfYear + 2) / 153
  let month := if march < 10 then march + 3 else march - 9
  let year := era * 400 + yearOfEra + (if month ≤ 2 then 1 else 0)
  (year, month, dayOfYear - (153 * march + 2) / 5 + 1)

private def padded (width : Nat) (n : Int) : String :=
  let digits := Nat.toDigits 10 n.toNat
  String.ofList (List.replicate (width - digits.length) '0' ++ digits)

/-- A fraction of a second with as many groups of three digits as it needs. -/
private def fraction (nanos : Int) : String :=
  if nanos = 0 then ""
  else if nanos % 1000000 = 0 then "." ++ padded 3 (nanos / 1000000)
  else if nanos % 1000 = 0 then "." ++ padded 6 (nanos / 1000)
  else "." ++ padded 9 nanos

def toText (moment : Moment) : String :=
  let (year, month, day) := civilDate (moment.seconds / 86400)
  let second := moment.seconds % 86400
  padded 4 year ++ "-" ++ padded 2 month ++ "-" ++ padded 2 day ++ "T" ++
    padded 2 (second / 3600) ++ ":" ++ padded 2 (second / 60 % 60) ++ ":" ++
    padded 2 (second % 60) ++ fraction (moment.nanos % 1000000000) ++ "Z"

def toJson (moment : Moment) : Json :=
  .str moment.toText

end Moment
end CoreWatch
