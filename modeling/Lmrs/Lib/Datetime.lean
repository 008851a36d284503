import Lmrs.Lib.Python

/-!
# UTC timestamps

An instant is a number of microseconds since 1970-01-01T00:00:00Z, as `datetime.now(UTC)` reads
it. `isoformat` renders it the way `datetime.isoformat` does: six fractional digits when the
fraction is not zero, none otherwise, and the offset `+00:00`. `addSeconds` is
`instant + timedelta(seconds=n)`, which raises past the last representable instant.
-/

namespace Datetime

open Python

/-- Microseconds in a second. -/
def microsPerSecond : Int := 1000000

/-- Microseconds in a day. -/
def microsPerDay : Int := 86400 * microsPerSecond

/-- `datetime.max` in UTC: 9999-12-31T23:59:59.999999. -/
def maxInstant : Int := 253402300799999999

/-- `instant + timedelta(seconds=n)`. -/
def addSeconds (instant n : Int) : Except PyException Int :=
  if maxInstant < instant + n * microsPerSecond then
    .error (overflowError "date value out of range")
  else .ok (instant + n * microsPerSecond)

/-- Year, month and day of a day count since 1970-01-01 (proleptic Gregorian calendar). -/
def civil (days : Int) : Int × Int × Int :=
  let z := days + 719468
  let era := z.fdiv 146097
  let doe := z - era * 146097
  let yoe := (doe - doe.fdiv 1460 + doe.fdiv 36524 - doe.fdiv 146096).fdiv 365
  let doy := doe - (365 * yoe + yoe.fdiv 4 - yoe.fdiv 100)
  let mp := (5 * doy + 2).fdiv 153
  let day := doy - (153 * mp + 2).fdiv 5 + 1
  let month := if mp < 10 then mp + 3 else mp - 9
  let year := yoe + era * 400 + if month ≤ 2 then 1 else 0
  (year, month, day)

/-- A number in `width` digits, padded with zeros. -/
def pad (width : Nat) (n : Int) : String :=
  let ds := toString n.toNat
  String.ofList (List.replicate (width - ds.length) '0') ++ ds

/-- `instant.isoformat()`. -/
def isoformat (instant : Int) : String :=
  let (year, month, day) := civil (instant.fdiv microsPerDay)
  let micros := instant.fmod microsPerDay
  let seconds := micros.fdiv microsPerSecond
  let fraction := micros.fmod microsPerSecond
  pad 4 year ++ "-" ++ pad 2 month ++ "-" ++ pad 2 day ++ "T" ++
    pad 2 (seconds.fdiv 3600) ++ ":" ++ pad 2 ((seconds.fmod 3600).fdiv 60) ++ ":" ++
    pad 2 (seconds.fmod 60) ++ (if fraction = 0 then "" else "." ++ pad 6 fraction) ++ "+00:00"

/-- Within the calendar, adding seconds gives the later instant. -/
theorem addSeconds_eq_ok {instant n later : Int} (h : addSeconds instant n = .ok later) :
    later = instant + n * microsPerSecond := by
  unfold addSeconds at h
  split_ifs at h
  cases h
  rfl

/-- Adding seconds stays within the calendar, or raises `OverflowError`. -/
theorem addSeconds_cases (instant n : Int) :
    (instant + n * microsPerSecond ≤ maxInstant ∧ ∃ later, addSeconds instant n = .ok later) ∨
      (maxInstant < instant + n * microsPerSecond ∧
        addSeconds instant n = .error (overflowError "date value out of range")) := by
  unfold addSeconds
  by_cases h : maxInstant < instant + n * microsPerSecond
  · rw [if_pos h]
    exact Or.inr ⟨h, rfl⟩
  · rw [if_neg h]
    exact Or.inl ⟨Int.not_lt.mp h, _, rfl⟩

example : civil 20664 = (2026, 7, 30) := by decide

end Datetime
