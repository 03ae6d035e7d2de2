import ClusterBrowser.Display.Size

/-!
# Timestamps

The cluster reports milliseconds since 1970.  They pass through a double count of seconds, so that the microseconds of an
instant carry the noise of that double.

* `Instant`: microseconds since 1970.
* `Instant.ofMillis`: the instant of a number of milliseconds.
* `Instant.text`: date and time in the proleptic Gregorian calendar.
-/

namespace ClusterBrowser

/-- A point in time, in microseconds since the start of 1970. -/
structure Instant where
  micros : Int
  deriving DecidableEq, Repr

namespace Instant

/-- The days from the start of 1970 to the start of a year. -/
def yearStart (year : Int) : Int :=
  let y := year - 1
  365 * y + y / 4 - y / 100 + y / 400 - 719162

def daySeconds : Int := 86400

/-- The whole seconds before the instant. -/
def seconds (t : Instant) : Int := t.micros / 1000000

/-- Whether the instant falls in the years from `first` to `last`. -/
def inYears (t : Instant) (first last : Int) : Bool :=
  yearStart first * daySeconds ≤ t.seconds && t.seconds < yearStart (last + 1) * daySeconds

/-- The instant of a count of seconds: the fraction is multiplied by a million in double arithmetic and then rounded half
to even. -/
def ofSeconds (negative : Bool) (size : Binary64) : Instant :=
  let micros : Int := (size.floor * 1000000 + (size.fraction.mulNat 1000000).round : Nat)
  ⟨if negative then -micros else micros⟩

/-- The instant of a number of milliseconds. Seconds are counted in 64 bits, years in 32, and only the years 1 to 9999
are shown. -/
def ofMillis (ms : Int) : Except DisplayError Instant :=
  let size := Binary64.ofRatio ms.natAbs 1000
  if !size.isFinite then .error .timeTooFar
  else
    let t := ofSeconds (ms < 0) size
    if t.seconds < -(Nat.pow 2 63) || Nat.pow 2 63 < t.seconds then .error .timeTooFar
    else if !t.inYears (1900 - Nat.pow 2 31) (1899 + Nat.pow 2 31) then .error .yearUncountable
    else if !t.inYears 1 9999 then .error .yearOutOfRange
    else .ok t

structure Date where
  year : Int
  month : Nat
  day : Nat
  deriving DecidableEq, Repr

/-- The date of a day, counted from the start of 1970. Years are taken to begin in March, so that the leap day comes
last. -/
def date (day : Int) : Date :=
  let shifted := day + 719468
  let era := shifted / 146097
  let dayOfEra := (shifted % 146097).toNat
  let yearOfEra := (dayOfEra - dayOfEra / 1460 + dayOfEra / 36524 - dayOfEra / 146096) / 365
  let dayOfYear := dayOfEra - (365 * yearOfEra + yearOfEra / 4 - yearOfEra / 100)
  let monthFromMarch := (5 * dayOfYear + 2) / 153
  let month := if monthFromMarch < 10 then monthFromMarch + 3 else monthFromMarch - 9
  { year := era * 400 + yearOfEra + (if month ≤ 2 then 1 else 0)
    month
    day := dayOfYear - (153 * monthFromMarch + 2) / 5 + 1 }

/-- A number with at least `width` digits. -/
def padded (width n : Nat) : List Char :=
  let ds := Decimal.writeNat n
  List.replicate (width - ds.length) '0' ++ ds

/-- Date, time, the microseconds unless they are zero, and the name of the zone. -/
def text (t : Instant) (zone : String) : String :=
  let d := date (t.seconds / daySeconds)
  let s := (t.seconds % daySeconds).toNat
  let us := (t.micros % 1000000).toNat
  String.ofList (padded 4 d.year.toNat ++ '-' :: padded 2 d.month ++ '-' :: padded 2 d.day ++
    'T' :: padded 2 (s / 3600) ++ ':' :: padded 2 (s / 60 % 60) ++ ':' :: padded 2 (s % 60) ++
    (if us = 0 then [] else '.' :: padded 6 us)) ++ zone

end Instant

end ClusterBrowser
