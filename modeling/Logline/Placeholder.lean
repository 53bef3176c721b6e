import Logline.Directive
import Logline.Json.Printer
import Logline.Binary64
import Logline.Text
/-!
Placeholders of a console template: `%`, an optional width and precision, and a conversion letter.
A placeholder consumes one value and shows it.
-/
namespace Logline

structure Placeholder where
  width : Option Nat
  precision : Option Nat
  conversion : Char
  deriving DecidableEq, Repr

namespace Placeholder

def conversions : List Char :=
  ['s', 'd', 'i', 'f', 'o', 'O', 'c']

/-- Precision behind a point; a point without digits means zero. -/
def readPrecision (cs : List Char) : Option Nat × List Char :=
  match cs with
  | '.' :: rest =>
    let (run, rest) := Decimal.splitDigits rest
    (if run = [] then some 0 else Directive.count? run, rest)
  | _ => (none, cs)

/-- Placeholder behind its `%`, and what follows it. -/
def read (cs : List Char) : Option (Placeholder × List Char) :=
  let (width, rest) := Directive.readWidth cs
  let (precision, rest) := readPrecision rest
  match rest with
  | c :: rest => if c ∈ conversions then some (⟨width, precision, c⟩, rest) else none
  | [] => none

theorem length_readPrecision (cs : List Char) : (readPrecision cs).2.length ≤ cs.length := by
  have := Decimal.length_splitDigits_rest
  unfold readPrecision; grind

theorem length_read {cs rest : List Char} {p : Placeholder} (h : read cs = some (p, rest)) :
    rest.length < cs.length := by
  have := Directive.length_readWidth cs
  have := length_readPrecision (Directive.readWidth cs).2
  unfold read at h
  grind

/-- Number that a value stands for, if any. -/
def number? : Json → Option Binary64
  | .num n => some n.toBinary64
  | .str s => Binary64.ofText? (Text.trim s.toList)
  | .bool b => some (.ofNat (if b then 1 else 0))
  | .null | .arr _ | .obj _ => none

/-- Nearest integer of 64 bits. -/
def saturate (n : Int) : Int :=
  max (-0x8000000000000000) (min n 0x7fffffffffffffff)

/-- Integer that a value stands for; a fraction is dropped. -/
def integer? : Json → Option Int
  | .num (.int n) => some n
  | v => (number? v).bind fun x => x.truncate?.map saturate

def notANumber : List Char :=
  ['N', 'a', 'N']

/-- Integer with at least the given number of digits, the sign not counted. -/
def integerText (minDigits : Option Nat) (v : Json) : List Char :=
  match integer? v with
  | none => notANumber
  | some n =>
    let magnitude := Decimal.padLeft '0' (minDigits.getD 0) (Decimal.digits n.natAbs)
    if n < 0 then '-' :: magnitude else magnitude

/-- Positional notation, with a fixed number of decimals when one is given. -/
def decimalText (decimals : Option Nat) (v : Json) : List Char :=
  match number? v, decimals with
  | none, _ => notANumber
  | some x, none => x.plainText
  | some x, some places => x.fixedText places

/-- Counts above the greatest one are absent. -/
def capped (n : Option Nat) : Option Nat :=
  n.filter (· ≤ maxCount)

/-- Text of a value without its width. -/
def body (p : Placeholder) (v : Json) : List Char :=
  match p.conversion with
  | 'd' | 'i' => integerText (capped p.precision) v
  | 'f' => decimalText (capped p.precision) v
  | 'o' => v.compact
  | 'O' => v.pretty
  | _ => v.display

/-- Text of a value, filled with blanks on the left. -/
def format (p : Placeholder) (v : Json) : List Char :=
  Decimal.padLeft ' ' ((capped p.width).getD 0) (p.body v)

end Placeholder

end Logline
