import Logline.Record
import Logline.Time.Pattern
/-!
Directives: the placeholders of a layout that name a field, `%(key)` with an optional flag, width,
precision and type letter. What one takes from a record is a time in a pattern, padded text, or the
field itself for a placeholder to format.
-/
namespace Logline

inductive Kind where
  | string | int | float | object | inspect
  | unknown (letter : Char)
  deriving DecidableEq, Repr

/-- Widths and precisions above this count as absent. -/
def maxCount : Nat := 1024

structure Directive where
  key : String
  flag : Option Char
  width : Option Nat
  precision : Option Nat
  kind : Kind
  deriving DecidableEq, Repr

namespace Kind

def ofLetter (c : Char) : Kind :=
  match c with
  | 's' => .string
  | 'd' => .int
  | 'f' => .float
  | 'o' => .object
  | 'O' => .inspect
  | c => .unknown c

def letter : Kind → Char
  | .string => 's'
  | .int => 'd'
  | .float => 'f'
  | .object => 'o'
  | .inspect => 'O'
  | .unknown c => c

end Kind

namespace Directive

/-- The key of the record's own time, shown in a time format whatever the type. -/
def timeKey : String := "asctime"

def isTime (d : Directive) : Bool :=
  d.key == timeKey

def alignsLeft (d : Directive) : Bool :=
  d.flag == some '-'

/-- Number of a digit run; none for an empty run and for more than `maxCount`. -/
def count? (run : List Char) : Option Nat :=
  if run = [] then none
  else
    let n := Decimal.value run
    if n ≤ maxCount then some n else none

/-- Flag at the front; a blank is one only directly before a digit. -/
def readFlag : List Char → Option Char × List Char
  | '-' :: cs => (some '-', cs)
  | '+' :: cs => (some '+', cs)
  | '0' :: cs => (some '0', cs)
  | '#' :: cs => (some '#', cs)
  | ' ' :: c :: cs => if c.isDigit then (some ' ', c :: cs) else (none, ' ' :: c :: cs)
  | cs => (none, cs)

def readWidth (cs : List Char) : Option Nat × List Char :=
  let (run, rest) := Decimal.splitDigits cs
  (count? run, rest)

/-- A point directly before a digit starts a precision. -/
def readPrecision (cs : List Char) : Option Nat × List Char :=
  match cs with
  | '.' :: rest =>
    let (run, rest) := Decimal.splitDigits rest
    if run = [] then (none, cs) else (count? run, rest)
  | _ => (none, cs)

/-- An ASCII letter is a type; without one the field is shown as text. -/
def readKind (cs : List Char) : Kind × List Char :=
  match cs with
  | c :: rest => if c.isAlpha then (.ofLetter c, rest) else (.string, cs)
  | [] => (.string, [])

/-- Key up to the first closing parenthesis; it holds at least one character. -/
def readKey (cs : List Char) : Option (String × List Char) :=
  match cs.takeWhile (· != ')'), cs.dropWhile (· != ')') with
  | [], _ => none
  | _, [] => none
  | key, _ :: rest => some (String.ofList key, rest)

/-- Directive behind its opener `%(`, and what follows it. -/
def read (cs : List Char) : Option (Directive × List Char) :=
  match readKey cs with
  | none => none
  | some (key, cs) =>
    let (flag, cs) := readFlag cs
    let (width, cs) := readWidth cs
    let (precision, cs) := readPrecision cs
    let (kind, cs) := readKind cs
    some (⟨key, flag, width, precision, kind⟩, cs)

theorem length_readFlag (cs : List Char) : (readFlag cs).2.length ≤ cs.length := by
  unfold readFlag; grind

theorem length_readWidth (cs : List Char) : (readWidth cs).2.length ≤ cs.length :=
  Decimal.length_splitDigits_rest cs

theorem length_readPrecision (cs : List Char) : (readPrecision cs).2.length ≤ cs.length := by
  have := Decimal.length_splitDigits_rest
  unfold readPrecision; grind

theorem length_readKind (cs : List Char) : (readKind cs).2.length ≤ cs.length := by
  unfold readKind; grind

theorem length_readKey {cs rest : List Char} {key : String} (h : readKey cs = some (key, rest)) :
    rest.length < cs.length := by
  have := (List.dropWhile_suffix (· != ')') : cs.dropWhile (· != ')') <:+ cs).length_le
  unfold readKey at h
  grind

theorem length_read {cs rest : List Char} {d : Directive} (h : read cs = some (d, rest)) :
    rest.length < cs.length := by
  unfold read at h
  split at h
  · contradiction
  · rename_i key body hkey
    simp only [Option.some.injEq, Prod.mk.injEq] at h
    have := length_readKey hkey
    have := length_readFlag body
    have := length_readWidth (readFlag body).2
    have := length_readPrecision (readWidth (readFlag body).2).2
    have := length_readKind (readPrecision (readWidth (readFlag body).2).2).2
    grind

/-- Text cut to the precision and filled up to the width; a width above the cap fills nothing. -/
def pad (d : Directive) (cs : List Char) : List Char :=
  let cs := match d.precision with
    | some n => cs.take n
    | none => cs
  let blanks := List.replicate ((d.width.filter (· ≤ maxCount)).getD 0 - cs.length) ' '
  if d.alignsLeft then cs ++ blanks else blanks ++ cs

/-- Value for the directive's placeholder. A field that is absent or not truthy gives empty text. -/
def value (d : Directive) (timePattern : List Char) (r : Record) : Json :=
  if d.isTime then .str (String.ofList (Time.strftime.format timePattern r.created))
  else
    match (r.field? d.key).filter Json.isTruthy with
    | none => .str ""
    | some v => if d.kind = .string then .str (String.ofList (d.pad v.display)) else v

end Directive

end Logline
