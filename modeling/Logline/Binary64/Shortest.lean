import Logline.Binary64
/-!
The fewest decimal digits that read back as a given binary number, and positional notation.

A decimal reads back when it lies between the midpoints to the two neighbouring numbers; a midpoint
itself reads back when the mantissa is even. Of two decimals of the same length the nearer one is
taken; where the number lies exactly between them, the rule for ties decides.
-/
namespace Logline.Binary64

/-- Which of two equally near decimals is taken: the one with an even last digit or the larger
one. -/
inductive Tie where
  | even
  | up
  deriving DecidableEq, Repr

/-- Whether a tie between `c` and `c + 1` goes to `c`. -/
def Tie.takesLower (c : Nat) : Tie → Bool
  | .even => c % 2 == 0
  | .up => false

/-- Digits without trailing zeros, read with the decimal point `point` places after the first. -/
structure Digits where
  digits : List Char
  point : Int
  deriving DecidableEq, Repr

namespace Digits

/-- Decimal `c * 10 ^ unit`. -/
def ofScaled (c : Nat) (unit : Int) : Digits :=
  let ds := Decimal.digits c
  ⟨(ds.reverse.dropWhile (· == '0')).reverse, ds.length + unit⟩

/-- Digits with the decimal point in place and at least one digit on each side of it. -/
def positional (d : Digits) : List Char × List Char :=
  let whole :=
    if d.point ≤ 0 then ['0']
    else (d.digits ++ List.replicate (d.point.toNat - d.digits.length) '0').take d.point.toNat
  let fraction := List.replicate (-d.point).toNat '0' ++ d.digits.drop d.point.toNat
  (whole, fraction)

end Digits

/-- The nearer one of the decimals with `n` digits on both sides of `mantissa * 2 ^ scale` that read
back. -/
def nearby (tie : Tie) (mantissa : Nat) (scale : Int) (n : Nat) : Option Digits :=
  let (num, den) := scaled mantissa 1 scale
  let unit := decimalExponent num den - n
  -- both sides of every comparison in quarters of the last binary place
  let decimalFactor := Nat.pow 10 unit.toNat * Nat.pow 2 (2 - scale).toNat
  let binaryFactor := Nat.pow 2 (scale - 2).toNat * Nat.pow 10 (-unit).toNat
  let exact := 4 * mantissa * binaryFactor
  let below := if mantissa = Nat.pow 2 52 ∧ scale ≠ -1074 then 1 else 2
  let low := (4 * mantissa - below) * binaryFactor
  let high := (4 * mantissa + 2) * binaryFactor
  let readsBack (c : Nat) : Bool :=
    if mantissa % 2 = 0 then low ≤ c * decimalFactor && c * decimalFactor ≤ high
    else low < c * decimalFactor && c * decimalFactor < high
  let c := exact / decimalFactor
  let fromBelow := exact - c * decimalFactor
  let fromAbove := (c + 1) * decimalFactor - exact
  let lowerFirst := fromBelow < fromAbove || (fromBelow == fromAbove && tie.takesLower c)
  let order := if lowerFirst then [c, c + 1] else [c + 1, c]
  (order.find? readsBack).map fun c => .ofScaled c unit

/-- Seventeen digits always read back, so the search ends with a decimal. -/
def shortest (tie : Tie) (mantissa : Nat) (scale : Int) : Digits :=
  ((List.range 17).findSome? fun i => nearby tie mantissa scale (i + 1)).getD ⟨['0'], 1⟩

/-- Positional notation with the fewest digits, a tie to the larger decimal, without a fraction for
a whole number. -/
def plainText : Binary64 → List Char
  | .nan => ['N', 'a', 'N']
  | .infinite s => (if s then ['-'] else []) ++ ['i', 'n', 'f']
  | .finite s m q _ =>
    let d := if m = 0 then ⟨[], 0⟩ else shortest .up m q
    let (whole, fraction) := d.positional
    (if s then ['-'] else []) ++ whole ++ (if fraction = [] then [] else '.' :: fraction)

/-- Positional notation with exactly `places` digits after the point, a tie to the even digit. -/
def fixedText (places : Nat) : Binary64 → List Char
  | .nan => ['N', 'a', 'N']
  | .infinite s => (if s then ['-'] else []) ++ ['i', 'n', 'f']
  | .finite s m q _ =>
    let (num, den) := scaled (m * Nat.pow 10 places) 1 q
    let ds := Decimal.padLeft '0' (places + 1) (Decimal.digits (roundDiv num den))
    let whole := ds.take (ds.length - places)
    let fraction := ds.drop (ds.length - places)
    (if s then ['-'] else []) ++ whole ++ (if places = 0 then [] else '.' :: fraction)

end Logline.Binary64
