import Logline.Time.Instant
import Logline.Decimal
/-!
Time stamps in the notation of RFC 3339, such as `2024-05-06T07:08:09.25+02:00`. A letter T in
either case or one blank stands between date and time, a leap second is accepted in any minute, and
of a fraction nine digits count.
-/
namespace Logline.Time

/-- Number of exactly `n` digits at the front. -/
def readFixed (n : Nat) (cs : List Char) : Option (Nat × List Char) :=
  let ds := cs.take n
  if ds.length = n ∧ ds.all Char.isDigit then some (Decimal.value ds, cs.drop n) else none

/-- One of the given characters at the front. -/
def readOneOf (accepted : List Char) : List Char → Option (List Char)
  | c :: cs => if c ∈ accepted then some cs else none
  | [] => none

/-- Year, month and day; whether the month has the day is left open. -/
def readDate (cs : List Char) : Option (Date × List Char) := do
  let (year, cs) ← readFixed 4 cs
  let cs ← readOneOf ['-'] cs
  let (month, cs) ← readFixed 2 cs
  let cs ← readOneOf ['-'] cs
  let (day, cs) ← readFixed 2 cs
  some (⟨year, month, day⟩, cs)

/-- Nanoseconds of a fraction's digits. -/
def nanosOf (ds : List Char) : Nat :=
  let kept := ds.take 9
  Decimal.value kept * Nat.pow 10 (9 - kept.length)

/-- Fraction behind its point; it has at least one digit. -/
def readFraction (cs : List Char) : Option (Nat × List Char) :=
  match cs with
  | '.' :: rest =>
    let (ds, rest) := Decimal.splitDigits rest
    if ds = [] then none else some (nanosOf ds, rest)
  | _ => some (0, cs)

/-- A time of day as hour, minute, second and nanoseconds. -/
structure Clock where
  hour : Nat
  minute : Nat
  second : Nat
  nanos : Nat
  deriving DecidableEq, Repr

def Clock.isValid (c : Clock) : Bool :=
  c.hour ≤ 23 && c.minute ≤ 59 && c.second ≤ 60

def readClock (cs : List Char) : Option (Clock × List Char) := do
  let (hour, cs) ← readFixed 2 cs
  let cs ← readOneOf [':'] cs
  let (minute, cs) ← readFixed 2 cs
  let cs ← readOneOf [':'] cs
  let (second, cs) ← readFixed 2 cs
  let (nanos, cs) ← readFraction cs
  some (⟨hour, minute, second, nanos⟩, cs)

/-- Hours and minutes of an offset behind its sign, in seconds; they end the text. -/
def readSeconds (cs : List Char) : Option Int := do
  let (hours, cs) ← readFixed 2 cs
  let cs ← readOneOf [':'] cs
  let (minutes, cs) ← readFixed 2 cs
  if cs = [] ∧ hours ≤ 23 ∧ minutes ≤ 59 then some (hours * 3600 + minutes * 60) else none

/-- Offset from UTC in seconds, which ends the text. A true minus sign is accepted too. -/
def readOffset : List Char → Option Int
  | ['Z'] | ['z'] => some 0
  | '+' :: cs => readSeconds cs
  | '-' :: cs | '\u2212' :: cs => (readSeconds cs).map (-·)
  | _ => none

/-- Time of a clock on a date; the sixtieth second is the fifty-ninth with a second more of
nanoseconds. -/
def Instant.ofClock (d : Date) (c : Clock) (offset : Int) : Instant :=
  let leap := c.second == 60
  let second : Int := if leap then 59 else c.second
  ⟨d.toDays * 86400 + c.hour * 3600 + c.minute * 60 + second - offset,
    if leap then c.nanos + 1000000000 else c.nanos⟩

def Instant.ofRfc3339? (cs : List Char) : Option Instant := do
  let (date, cs) ← readDate cs
  let cs ← readOneOf ['T', 't', ' '] cs
  let (clock, cs) ← readClock cs
  let offset ← readOffset cs
  if date.isValid && clock.isValid then some (.ofClock date clock offset) else none

end Logline.Time
