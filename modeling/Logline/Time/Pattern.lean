import Logline.Time.Instant
import Logline.Decimal
/-!
Time patterns: text in which specifiers such as `%H` stand for parts of a time on a local clock. A
library reads patterns and writes times. A pattern with a specifier that does not exist is invalid as
a whole, and the default pattern replaces it, as it does where the library stops writing.
-/
namespace Logline.Time

/-- How a number is brought to its least width. -/
inductive Padding where
  | none | zero | blank
  deriving DecidableEq, Repr

inductive Part where
  | year | century | yearOfCentury
  | quarter | month | day | ordinal
  | daysFromSunday | dayOfWeek
  | weekFromSunday | weekFromMonday
  | isoYear | isoYearOfCentury | isoWeek
  | hour | hour12 | minute | second | nanosecond
  | timestamp
  deriving DecidableEq, Repr

namespace Padding

/-- Number with at least `places` digits; the places before a small one are filled. -/
def number (p : Padding) (places n : Nat) : List Char :=
  match p with
  | .none => Decimal.digits n
  | .zero => Decimal.padLeft '0' places (Decimal.digits n)
  | .blank => Decimal.padLeft ' ' places (Decimal.digits n)

/-- Signed number of at least `width` characters, the sign among them. -/
def signed (p : Padding) (width : Nat) (sign : List Char) (n : Nat) : List Char :=
  match p with
  | .none => sign ++ Decimal.digits n
  | .zero => sign ++ Decimal.padLeft '0' (width - sign.length) (Decimal.digits n)
  | .blank => Decimal.padLeft ' ' width (sign ++ Decimal.digits n)

/-- Four digits, and a sign for years before 0 and after 9999. -/
def year (p : Padding) (y : Int) : List Char :=
  if 1000 ≤ y ∧ y ≤ 9999 then Decimal.digits y.natAbs
  else if 0 ≤ y ∧ y < 1000 then p.number 4 y.natAbs
  else p.signed 5 [if y < 0 then '-' else '+'] y.natAbs

/-- Two places of a number of eight bits; the place of the tens holds any number of tens. -/
def twoPlaces (p : Padding) (n : Nat) : List Char :=
  let tens := n / 10
  let first := match p with
    | .none => if tens = 0 then [] else [Char.ofNat ('0'.toNat + tens)]
    | .zero => [Char.ofNat ('0'.toNat + tens)]
    | .blank => if tens = 0 then [' '] else [Char.ofNat ('0'.toNat + tens)]
  first ++ Decimal.digits (n % 10)

end Padding

namespace Part

/-- Hour of a clock with twelve hours, which begins at twelve. -/
def clockHour (hour : Nat) : Nat :=
  if hour % 12 = 0 then 12 else hour % 12

def text (part : Part) (p : Padding) (t : LocalTime) : List Char :=
  match part with
  | .year => p.year t.date.year
  | .century => p.twoPlaces (t.date.year / 100 % 256).toNat
  | .yearOfCentury => p.twoPlaces (t.date.year % 100).toNat
  | .quarter => Decimal.digits t.date.quarter
  | .month => p.twoPlaces t.date.month
  | .day => p.twoPlaces t.date.day
  | .ordinal => p.number 3 t.date.ordinal
  | .daysFromSunday => Decimal.digits t.date.daysFromSunday
  | .dayOfWeek => Decimal.digits (t.date.daysFromMonday + 1)
  | .weekFromSunday => p.twoPlaces (t.date.weekFrom t.date.daysFromSunday)
  | .weekFromMonday => p.twoPlaces (t.date.weekFrom t.date.daysFromMonday)
  | .isoYear => p.year t.date.isoYear
  | .isoYearOfCentury => p.twoPlaces (t.date.isoYear % 100).toNat
  | .isoWeek => p.twoPlaces t.date.isoWeek
  | .hour => p.twoPlaces t.hour
  | .hour12 => p.twoPlaces (clockHour t.hour)
  | .minute => p.twoPlaces t.minute
  | .second => p.twoPlaces t.second
  | .nanosecond => p.number 9 t.fraction
  | .timestamp => p.signed 9 (if t.seconds < 0 then ['-'] else []) t.seconds.natAbs

end Part

namespace Offset

/-- Last place in which an offset is shown. -/
inductive Place where
  | hours | minutes | seconds
  deriving DecidableEq, Repr

/-- Sign and two digits for each place. Minutes in the last place are rounded, hours are cut off. -/
def text (o : Offset) (last : Place) (colons : Bool) : List Char :=
  let n := o.seconds.natAbs
  let places := match last with
    | .hours => [n / 3600]
    | .minutes => [(n + 30) / 3600, (n + 30) / 60 % 60]
    | .seconds => [n / 3600, n / 60 % 60, n % 60]
  (if o.seconds < 0 then '-' else '+') ::
    List.intercalate (if colons then [':'] else []) (places.map (Padding.twoPlaces .zero))

/-- Name of an offset; seconds are shown if there are any. -/
def name (o : Offset) : List Char :=
  o.text (if o.seconds % 60 = 0 then .minutes else .seconds) true

end Offset

/-- Component of a pattern. `unshowable` reads an offset in several notations and shows none;
`invalid` stands where a specifier does not exist. -/
inductive Item where
  | text (t : List Char)
  | number (part : Part) (p : Padding)
  | monthName (short : Bool)
  | weekdayName (short : Bool)
  | halfOfDay (capital : Bool)
  | fraction (places : Nat)
  | shortFraction
  | offset (last : Offset.Place) (colons : Bool)
  | zoneName
  | unshowable
  | invalid
  deriving DecidableEq, Repr

namespace Item

/-- First `places` digits of the nanoseconds. -/
def fractionDigits (places : Nat) (t : LocalTime) : List Char :=
  (Decimal.padLeft '0' 9 (Decimal.digits t.fraction)).take places

/-- Point and three, six or nine digits, the fewest that lose nothing; none on a full second. -/
def shortFractionText (t : LocalTime) : List Char :=
  if t.fraction = 0 then []
  else if t.fraction % 1000000 = 0 then '.' :: fractionDigits 3 t
  else if t.fraction % 1000 = 0 then '.' :: fractionDigits 6 t
  else '.' :: fractionDigits 9 t

def nameText (names : List String) (i : Nat) (short : Bool) : List Char :=
  let name := (names[i]?.getD "").toList
  if short then name.take 3 else name

/-- Text of a component; none if it cannot be shown. -/
def show? (t : LocalTime) : Item → Option (List Char)
  | .text cs => some cs
  | .number part p => some (part.text p t)
  | .monthName short => some (nameText monthNames (t.date.month - 1) short)
  | .weekdayName short => some (nameText weekdayNames t.date.daysFromSunday short)
  | .halfOfDay capital =>
    let cs := if t.hour < 12 then ['a', 'm'] else ['p', 'm']
    some (if capital then cs.map Char.toUpper else cs)
  | .fraction places => some (fractionDigits places t)
  | .shortFraction => some (shortFractionText t)
  | .offset last colons => some (t.offset.text last colons)
  | .zoneName => some t.offset.name
  | .unshowable | .invalid => none

end Item

namespace Pattern

def zeros (part : Part) : Item := .number part .zero

def blanks (part : Part) : Item := .number part .blank

def bare (part : Part) : Item := .number part .none

def lit (s : String) : Item := .text s.toList

def clock : List Item :=
  [zeros .hour, lit ":", zeros .minute, lit ":", zeros .second]

def calendarDay : List Item :=
  [zeros .year, lit "-", zeros .month, lit "-", zeros .day]

def shortDay : List Item :=
  [zeros .month, lit "/", zeros .day, lit "/", zeros .yearOfCentury]

/-- Components that a letter behind the percent sign stands for. -/
def ofLetter (c : Char) : Option (List Item) :=
  match c with
  | 'Y' => some [zeros .year]
  | 'C' => some [zeros .century]
  | 'y' => some [zeros .yearOfCentury]
  | 'q' => some [bare .quarter]
  | 'm' => some [zeros .month]
  | 'b' | 'h' => some [.monthName true]
  | 'B' => some [.monthName false]
  | 'd' => some [zeros .day]
  | 'e' => some [blanks .day]
  | 'a' => some [.weekdayName true]
  | 'A' => some [.weekdayName false]
  | 'w' => some [bare .daysFromSunday]
  | 'u' => some [bare .dayOfWeek]
  | 'U' => some [zeros .weekFromSunday]
  | 'W' => some [zeros .weekFromMonday]
  | 'G' => some [zeros .isoYear]
  | 'g' => some [zeros .isoYearOfCentury]
  | 'V' => some [zeros .isoWeek]
  | 'j' => some [zeros .ordinal]
  | 'H' => some [zeros .hour]
  | 'k' => some [blanks .hour]
  | 'I' => some [zeros .hour12]
  | 'l' => some [blanks .hour12]
  | 'M' => some [zeros .minute]
  | 'S' => some [zeros .second]
  | 'f' => some [zeros .nanosecond]
  | 's' => some [bare .timestamp]
  | 'P' => some [.halfOfDay false]
  | 'p' => some [.halfOfDay true]
  | 'D' | 'x' => some shortDay
  | 'F' => some calendarDay
  | 'v' => some [blanks .day, lit "-", .monthName true, lit "-", zeros .year]
  | 'R' => some [zeros .hour, lit ":", zeros .minute]
  | 'T' | 'X' => some clock
  | 'r' =>
    some [zeros .hour12, lit ":", zeros .minute, lit ":", zeros .second, lit " ", .halfOfDay true]
  | 'c' =>
    some ([.weekdayName true, lit " ", .monthName true, lit " ", blanks .day, lit " "] ++ clock ++
      [lit " ", zeros .year])
  | '+' => some (calendarDay ++ [lit "T"] ++ clock ++ [.shortFraction, .offset .minutes true])
  | 'z' => some [.offset .minutes false]
  | 'Z' => some [.zoneName]
  | 'n' => some [lit "\n"]
  | 't' => some [lit "\t"]
  | '%' => some [lit "%"]
  | _ => none

/-- A padding in front of the letter changes a single number and nothing else. -/
def padded (p : Padding) (c : Char) : Option (List Item) :=
  match ofLetter c with
  | some [.number part _] => some [.number part p]
  | _ => none

/-- Components of the specifier behind a percent sign, and what follows it. -/
def read : List Char → Option (List Item × List Char)
  | '-' :: c :: rest => (padded .none c).map fun items => (items, rest)
  | '0' :: c :: rest => (padded .zero c).map fun items => (items, rest)
  | '_' :: c :: rest => (padded .blank c).map fun items => (items, rest)
  | '#' :: 'z' :: rest => some ([.unshowable], rest)
  | '.' :: 'f' :: rest => some ([.shortFraction], rest)
  | '.' :: '3' :: 'f' :: rest => some ([lit ".", .fraction 3], rest)
  | '.' :: '6' :: 'f' :: rest => some ([lit ".", .fraction 6], rest)
  | '.' :: '9' :: 'f' :: rest => some ([lit ".", .fraction 9], rest)
  | '3' :: 'f' :: rest => some ([.fraction 3], rest)
  | '6' :: 'f' :: rest => some ([.fraction 6], rest)
  | '9' :: 'f' :: rest => some ([.fraction 9], rest)
  | ':' :: 'z' :: rest => some ([.offset .minutes true], rest)
  | ':' :: ':' :: 'z' :: rest => some ([.offset .seconds true], rest)
  | ':' :: ':' :: ':' :: 'z' :: rest => some ([.offset .hours false], rest)
  | c :: rest => (ofLetter c).map fun items => (items, rest)
  | [] => none

theorem length_read {cs rest : List Char} {items : List Item} (h : read cs = some (items, rest)) :
    rest.length < cs.length := by
  unfold read at h
  split at h <;> simp_all only [Option.map_eq_some_iff, Prod.mk.injEq, Option.some.injEq,
    List.length_cons, reduceCtorEq] <;> grind

/-- Components of a pattern. Nothing is read behind a specifier that does not exist. -/
def items (pattern : List Char) : List Item :=
  match pattern with
  | [] => []
  | '%' :: cs =>
    match _h : read cs with
    | none => [.invalid]
    | some (front, rest) => front ++ items rest
  | c :: cs => .text [c] :: items cs
termination_by pattern.length
decreasing_by
  · have := length_read _h
    simp only [List.length_cons]; omega
  · simp

def default : List Char :=
  "%Y-%m-%d %H:%M:%S".toList

end Pattern

/-- Text in a buffer, and whether the writing into it came to its end. -/
structure Draft where
  text : List Char
  complete : Bool
  deriving DecidableEq, Repr

/-- What reads patterns and writes times. -/
structure Library where
  /-- Components of a pattern. -/
  items : List Char → List Item
  /-- Write a time by a pattern behind the text in a buffer. -/
  write : List Char → LocalTime → List Char → Draft

namespace Library

/-- Text of a time, by the default pattern if the given one is empty. Where the writing stops, the
buffer is cleared and the time is written by the default pattern. -/
def format (lib : Library) (pattern : List Char) (t : LocalTime) : List Char :=
  let out := lib.write (if pattern = [] then Pattern.default else pattern) t []
  if out.complete then out.text
  else
    let cleared := { out with text := [] }
    (lib.write Pattern.default t cleared.text).text

/-- The pattern to use: an invalid one is replaced by the default. -/
def checked (lib : Library) (pattern : List Char) : List Char :=
  if .invalid ∈ lib.items pattern then Pattern.default else pattern

end Library

/-- Write components behind the text in a buffer, up to the first that cannot be shown. -/
def writeItems (t : LocalTime) (out : List Char) : List Item → Draft
  | [] => ⟨out, true⟩
  | item :: items =>
    match item.show? t with
    | none => ⟨out, false⟩
    | some cs => writeItems t (out ++ cs) items

/-- The library that the program runs with: it writes the components of a pattern in order. -/
def strftime : Library :=
  ⟨Pattern.items, fun pattern t out => writeItems t out (Pattern.items pattern)⟩

end Logline.Time
