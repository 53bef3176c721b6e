import Logline.Decimal
/-!
Numbers of the 64-bit binary interchange format as integers with a binary scale. Every operation
is the exact rational result rounded once to the nearest number, a tie to the even mantissa. People
write a number as an optional sign and digits with an optional point and exponent, or as one of the
words for infinity and for no number in any mix of cases.
-/
namespace Logline

namespace Binary64

/-- A mantissa of at most 53 bits on the smallest scale that holds it. -/
abbrev Canonical (mantissa : Nat) (scale : Int) : Prop :=
  mantissa < Nat.pow 2 53 ∧ -1074 ≤ scale ∧ scale ≤ 971 ∧ (Nat.pow 2 52 ≤ mantissa ∨ scale = -1074)

end Binary64

/-- A finite number is `mantissa * 2 ^ scale` with its sign; zero has both signs. -/
inductive Binary64 where
  | finite (negative : Bool) (mantissa : Nat) (scale : Int)
      (canonical : Binary64.Canonical mantissa scale)
  | infinite (negative : Bool)
  | nan
  deriving DecidableEq

namespace Binary64

def zero (negative : Bool) : Binary64 :=
  .finite negative 0 (-1074) (by decide)

/-- Quotient rounded to the nearest integer, a tie to the even one. -/
def roundDiv (num den : Nat) : Nat :=
  let quotient := num / den
  let twice := 2 * (num % den)
  if den < twice ∨ (twice = den ∧ quotient % 2 = 1) then quotient + 1 else quotient

/-- Numerator and denominator of `num / den * 2 ^ scale`. -/
def scaled (num den : Nat) (scale : Int) : Nat × Nat :=
  (num * Nat.pow 2 scale.toNat, den * Nat.pow 2 (-scale).toNat)

/-- Binary exponent of a positive quotient: the greatest `e` with `2 ^ e ≤ num / den`. -/
def exponent (num den : Nat) : Int :=
  let guess : Int := (Nat.log2 num : Int) - Nat.log2 den
  let (n, d) := scaled num den (-guess)
  if d ≤ n then guess else guess - 1

/-- Number nearest to `num / den`; beyond the greatest finite one it is infinite. -/
def ofRatio (negative : Bool) (num den : Nat) : Binary64 :=
  if num = 0 then zero negative
  else
    let scale := max (-1074) (exponent num den - 52)
    let (n, d) := scaled num den (-scale)
    let mantissa := roundDiv n d
    let (mantissa, scale) :=
      if mantissa = Nat.pow 2 53 then (Nat.pow 2 52, scale + 1) else (mantissa, scale)
    if h : Canonical mantissa scale then .finite negative mantissa scale h
    else .infinite negative

/-- Number nearest to `m * 10 ^ k`. A power far outside the format decides without being
computed. -/
def ofDecimal (negative : Bool) (m : Nat) (k : Int) : Binary64 :=
  let magnitude := (Decimal.digits m).length + k
  if m = 0 ∨ magnitude < -400 then zero negative
  else if 400 < magnitude then .infinite negative
  else ofRatio negative (m * Nat.pow 10 k.toNat) (Nat.pow 10 (-k).toNat)

def ofNat (n : Nat) : Binary64 :=
  ofRatio false n 1

def ofInt (n : Int) : Binary64 :=
  ofRatio (n < 0) n.natAbs 1

def neg : Binary64 → Binary64
  | .finite s m q h => .finite (!s) m q h
  | .infinite s => .infinite (!s)
  | .nan => .nan

def isZero : Binary64 → Bool
  | .finite _ m _ _ => m == 0
  | _ => false

def isFinite : Binary64 → Bool
  | .finite .. => true
  | _ => false

def mul : Binary64 → Binary64 → Binary64
  | .finite s m q _, .finite s' m' q' _ =>
    let (n, d) := scaled (m * m') 1 (q + q')
    ofRatio (s != s') n d
  | .infinite s, .infinite s' => .infinite (s != s')
  | .infinite s, .finite s' m _ _ => if m = 0 then .nan else .infinite (s != s')
  | .finite s m _ _, .infinite s' => if m = 0 then .nan else .infinite (s != s')
  | .nan, _ => .nan
  | _, .nan => .nan

def div : Binary64 → Binary64 → Binary64
  | .finite s m q _, .finite s' m' q' _ =>
    if m' = 0 then (if m = 0 then .nan else .infinite (s != s'))
    else
      let (n, d) := scaled m m' (q - q')
      ofRatio (s != s') n d
  | .infinite s, .finite s' _ _ _ => .infinite (s != s')
  | .finite s _ _ _, .infinite s' => zero (s != s')
  | _, _ => .nan

/-- Integer part, toward zero. -/
def truncate? : Binary64 → Option Int
  | .finite s m q _ =>
    let (n, d) := scaled m 1 q
    some (if s then -((n / d : Nat) : Int) else ((n / d : Nat) : Int))
  | _ => none

/-- Nearest integer, a tie away from zero; infinite numbers lie beyond every bound. -/
def roundAway : Binary64 → Option Int
  | .finite s m q _ =>
    let (n, d) := scaled m 1 q
    let r := (2 * n + d) / (2 * d)
    some (if s then -(r : Int) else (r : Int))
  | _ => none

/-- Decimal exponent of a positive quotient: the `k` with `10 ^ (k - 1) ≤ num / den < 10 ^ k`. -/
def decimalExponent (num den : Nat) : Int :=
  if den ≤ num then (Decimal.digits (num / den)).length
  else 1 - (Decimal.digits ((den + num - 1) / num - 1)).length

/-- Sign at the front, if there is one. -/
def readSign : List Char → Bool × List Char
  | '-' :: cs => (true, cs)
  | '+' :: cs => (false, cs)
  | cs => (false, cs)

/-- Exponent part; absent means zero, present means a letter, an optional sign and digits. -/
def readExponent : List Char → Option Int
  | [] => some 0
  | c :: cs =>
    if c = 'e' ∨ c = 'E' then
      let (negative, cs) := readSign cs
      let (ds, rest) := Decimal.splitDigits cs
      if ds = [] ∨ rest ≠ [] then none
      else some (if negative then -(Decimal.value ds : Int) else Decimal.value ds)
    else none

/-- Magnitude after the sign: digits on at least one side of an optional point. -/
def readMagnitude (negative : Bool) (cs : List Char) : Option Binary64 :=
  let (whole, rest) := Decimal.splitDigits cs
  let (fraction, rest) := match rest with
    | '.' :: rest => Decimal.splitDigits rest
    | rest => ([], rest)
  if whole = [] ∧ fraction = [] then none
  else (readExponent rest).map fun e =>
    ofDecimal negative (Decimal.value (whole ++ fraction)) (e - fraction.length)

/-- Words for the numbers without digits, compared without regard to ASCII case. -/
def readWord (negative : Bool) (cs : List Char) : Option Binary64 :=
  let word := cs.map Char.toLower
  if word = ['i', 'n', 'f'] ∨ word = ['i', 'n', 'f', 'i', 'n', 'i', 't', 'y'] then
    some (.infinite negative)
  else if word = ['n', 'a', 'n'] then some .nan
  else none

def ofText? (cs : List Char) : Option Binary64 :=
  let (negative, cs) := readSign cs
  readWord negative cs <|> readMagnitude negative cs

end Binary64

end Logline
