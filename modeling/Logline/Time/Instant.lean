import Logline.Time.Calendar
import Logline.Binary64
/-!
Points in time, in UTC and on the clock of a place. Within a leap second the nanoseconds run on past
a full second.
-/
namespace Logline.Time

/-- Seconds since 1970-01-01T00:00:00Z and the nanoseconds after them. -/
structure Instant where
  seconds : Int
  nanos : Nat
  deriving DecidableEq, Repr

namespace Instant

/-- Milliseconds since the epoch, rounded down. -/
def millis (t : Instant) : Int :=
  t.seconds * 1000 + (t.nanos / 1000000 : Nat)

/-- Milliseconds within the second; at least a thousand in a leap second. -/
def subsecMillis (t : Instant) : Nat :=
  t.nanos / 1000000

def ofMillis (ms : Int) : Instant :=
  ⟨ms / 1000, (ms % 1000).toNat * 1000000⟩

/-- Nanoseconds within the second shown. -/
def fraction (t : Instant) : Nat :=
  t.nanos % 1000000000

/-- First and last milliseconds of the years -262143 to 262142, the range of dates. -/
def minMillis : Int := (Date.mk (-262143) 1 1).toDays * 86400000
def maxMillis : Int := ((Date.mk 262142 12 31).toDays + 1) * 86400000 - 1

/-- Time given as seconds since the epoch: thousandths, rounded to whole milliseconds. -/
def ofSeconds? (x : Binary64) : Option Instant :=
  (x.mul (.ofNat 1000)).roundAway.bind fun ms =>
    if minMillis ≤ ms ∧ ms ≤ maxMillis then some (ofMillis ms) else none

/-- Seconds since the epoch with the milliseconds as a fraction. -/
def toSeconds (t : Instant) : Binary64 :=
  (Binary64.ofInt t.millis).div (.ofNat 1000)

end Instant

/-- How far a local clock is ahead of UTC, in seconds; less than a day either way. -/
structure Offset where
  seconds : Int
  lower : -86400 < seconds
  upper : seconds < 86400
  deriving DecidableEq, Repr

namespace Offset

def utc : Offset := ⟨0, by decide, by decide⟩

/-- Offset of a number of seconds; UTC if they make up a day. -/
def ofSeconds (n : Int) : Offset :=
  if h : -86400 < n ∧ n < 86400 then ⟨n, h.1, h.2⟩ else utc

end Offset

/-- Offset of the clocks of a place, by the seconds since the epoch. -/
abbrev Zone := Int → Offset

def Zone.utc : Zone := fun _ => .utc

/-- A point in time on a local clock. -/
structure LocalTime extends Instant where
  offset : Offset
  deriving DecidableEq, Repr

/-- A point in time on the clock of a place. -/
def Instant.inZone (t : Instant) (zone : Zone) : LocalTime :=
  ⟨t, zone t.seconds⟩

namespace LocalTime

def epoch : LocalTime := ⟨⟨0, 0⟩, .utc⟩

/-- Seconds since the local clock showed the beginning of 1970. -/
def localSeconds (t : LocalTime) : Int :=
  t.seconds + t.offset.seconds

def date (t : LocalTime) : Date :=
  .ofDays (t.localSeconds / 86400)

def secondOfDay (t : LocalTime) : Nat :=
  (t.localSeconds % 86400).toNat

def hour (t : LocalTime) : Nat :=
  t.secondOfDay / 3600

def minute (t : LocalTime) : Nat :=
  t.secondOfDay / 60 % 60

/-- Second of the minute; 60 in a leap second. -/
def second (t : LocalTime) : Nat :=
  t.secondOfDay % 60 + t.nanos / 1000000000

end LocalTime

end Logline.Time
