import Logline.Json
import Logline.Text
/-!
Tokens of a JSON text. Reading is strict: no control character stands in a string, no surrogate
escape stands alone, no number has a leading zero, and a number outside the binary range is refused.
-/
namespace Logline.Json

inductive Token where
  | openItems | closeItems
  | openMembers | closeMembers
  | comma | colon
  | text (s : String)
  | atom (v : Json)
  deriving DecidableEq

def isBlank (c : Char) : Bool :=
  c == ' ' || c == '\n' || c == '\r' || c == '\t'

def hexWord? (a b c d : Char) : Option Nat :=
  Text.ofDigits? 16 [a, b, c, d]

/-- Character that a backslash and one letter stand for. -/
def unescape? (c : Char) : Option Char :=
  match c with
  | '"' => some '"'
  | '\\' => some '\\'
  | '/' => some '/'
  | 'b' => some '\x08'
  | 'f' => some '\x0c'
  | 'n' => some '\n'
  | 'r' => some '\r'
  | 't' => some '\t'
  | _ => none

/-- Put one more character in front of a content already read. -/
def prepend (c : Char) : Option (List Char × List Char) → Option (List Char × List Char)
  | none => none
  | some (s, rest) => some (c :: s, rest)

theorem eq_some_of_prepend {c : Char} {o : Option (List Char × List Char)} {s rest : List Char}
    (h : prepend c o = some (s, rest)) : ∃ t, o = some (t, rest) := by
  cases o with
  | none => simp [prepend] at h
  | some p => exact ⟨p.1, by simp_all [prepend, Prod.ext_iff]⟩

/-- Content of a string up to its closing quote, and what follows the quote. -/
def readText : List Char → Option (List Char × List Char)
  | [] => none
  | '"' :: rest => some ([], rest)
  | '\\' :: 'u' :: a :: b :: c :: d :: rest =>
    match hexWord? a b c d with
    | none => none
    | some high =>
      if high < 0xD800 ∨ 0xDFFF < high then
        prepend (Char.ofNat high) (readText rest)
      else
        match rest with
        | '\\' :: 'u' :: a :: b :: c :: d :: rest =>
          match hexWord? a b c d with
          | none => none
          | some low =>
            if high < 0xDC00 ∧ 0xDC00 ≤ low ∧ low ≤ 0xDFFF then
              prepend (Char.ofNat (0x10000 + (high - 0xD800) * 0x400 + (low - 0xDC00)))
                (readText rest)
            else none
        | _ => none
  | '\\' :: e :: rest =>
    match unescape? e with
    | none => none
    | some c => prepend c (readText rest)
  | c :: rest =>
    if c.toNat < 32 ∨ c = '\\' then none
    else prepend c (readText rest)

/-- Digits are taken into the significand while it fits 64 bits; the count of those taken
follows. -/
def takeDigits (significand : Nat) : List Char → Nat × Nat
  | [] => (significand, 0)
  | c :: cs =>
    let next := 10 * significand + Decimal.digitValue c
    if next < 0x10000000000000000 then
      let (s, taken) := takeDigits next cs
      (s, taken + 1)
    else (significand, 0)

def powerOfTen (k : Nat) : Binary64 :=
  .ofDecimal false 1 k

/-- Division by a power of ten in steps of at most `10 ^ 308`, each step rounded. -/
def scaleDown (x : Binary64) (k : Nat) : Binary64 :=
  if k ≤ 308 then x.div (powerOfTen k)
  else if x.isZero then x
  else scaleDown (x.div (powerOfTen 308)) (k - 308)
termination_by k

/-- The significand rounded, then scaled by a rounded power of ten; none beyond the range. -/
def scale? (significand : Nat) (e : Int) : Option Binary64 :=
  let x := Binary64.ofNat significand
  if e < 0 then some (scaleDown x e.natAbs)
  else if x.isZero then some x
  else if 308 < e then none
  else
    let y := x.mul (powerOfTen e.natAbs)
    if y.isFinite then some y else none

/-- Exponent letter, optional sign and digits; without the letter the exponent is zero. -/
def readExponent (cs : List Char) : Option (Option Int × List Char) :=
  match cs with
  | c :: rest =>
    if c = 'e' ∨ c = 'E' then
      let (negative, rest) := match rest with
        | '-' :: rest => (true, rest)
        | '+' :: rest => (false, rest)
        | rest => (false, rest)
      let (ds, rest) := Decimal.splitDigits rest
      if ds = [] then none
      else
        let e : Int := Decimal.value ds
        some (some (if negative then -e else e), rest)
    else some (none, cs)
  | [] => some (none, [])

/-- Point and digits; without the point there is no fraction. -/
def readFraction (cs : List Char) : Option (Option (List Char) × List Char) :=
  match cs with
  | '.' :: rest =>
    let (ds, rest) := Decimal.splitDigits rest
    if ds = [] then none else some (some ds, rest)
  | cs => some (none, cs)

/-- Integers of 64 bits stay exact; minus zero and all others become binary. -/
def number? (negative : Bool) (whole : List Char) (fraction : Option (List Char))
    (e : Option Int) : Option Number :=
  let (significand, taken) := takeDigits 0 whole
  let isInteger := fraction.isNone && e.isNone && taken == whole.length
  if isInteger && !negative then some (.int significand)
  else if isInteger && significand ≠ 0 && significand ≤ 0x8000000000000000 then
    some (.int (-significand))
  else
    let (significand, places) := takeDigits significand (fraction.getD [])
    let dropped := whole.length - taken
    (scale? significand ((dropped : Int) - places + e.getD 0)).map fun x =>
      .float (if negative then x.neg else x)

/-- Number without its sign at the front of a text. -/
def readNumber (negative : Bool) (cs : List Char) : Option (Number × List Char) :=
  let (whole, rest) := Decimal.splitDigits cs
  if whole = [] ∨ (whole.head? = some '0' ∧ whole ≠ ['0']) then none
  else
    match readFraction rest with
    | none => none
    | some (fraction, rest) =>
      match readExponent rest with
      | none => none
      | some (e, rest) => (number? negative whole fraction e).map fun n => (n, rest)

/-- Token whose first character is `c`, and what follows it. -/
def readToken (c : Char) (cs : List Char) : Option (Token × List Char) :=
  match c with
  | '[' => some (.openItems, cs)
  | ']' => some (.closeItems, cs)
  | '\x7b' => some (.openMembers, cs)
  | '\x7d' => some (.closeMembers, cs)
  | ',' => some (.comma, cs)
  | ':' => some (.colon, cs)
  | '"' => (readText cs).map fun (s, rest) => (.text (String.ofList s), rest)
  | '-' => (readNumber true cs).map fun (n, rest) => (.atom (.num n), rest)
  | 'n' => match cs with
    | 'u' :: 'l' :: 'l' :: rest => some (.atom .null, rest)
    | _ => none
  | 't' => match cs with
    | 'r' :: 'u' :: 'e' :: rest => some (.atom (.bool true), rest)
    | _ => none
  | 'f' => match cs with
    | 'a' :: 'l' :: 's' :: 'e' :: rest => some (.atom (.bool false), rest)
    | _ => none
  | c => (readNumber false (c :: cs)).map fun (n, rest) => (.atom (.num n), rest)

theorem length_readText {cs s rest : List Char} (h : readText cs = some (s, rest)) :
    rest.length < cs.length := by
  fun_induction readText cs generalizing s rest <;>
    simp only [List.length_cons, List.length_nil] <;> grind [→ eq_some_of_prepend]

theorem length_readExponent {cs : List Char} {e : Option Int} {rest : List Char}
    (h : readExponent cs = some (e, rest)) : rest.length ≤ cs.length := by
  have := Decimal.length_splitDigits_rest
  unfold readExponent at h
  grind [Option.map_eq_some_iff]

theorem length_readFraction {cs : List Char} {f : Option (List Char)} {rest : List Char}
    (h : readFraction cs = some (f, rest)) : rest.length ≤ cs.length := by
  have := Decimal.length_splitDigits_rest
  unfold readFraction at h
  grind [Option.map_eq_some_iff]

theorem length_readNumber {negative : Bool} {cs : List Char} {n : Number} {rest : List Char}
    (h : readNumber negative cs = some (n, rest)) : rest.length < cs.length := by
  have hs := Decimal.splitDigits_append cs
  have hl := congrArg List.length hs
  simp only [List.length_append] at hl
  have hp : (Decimal.splitDigits cs).1 ≠ [] → 0 < (Decimal.splitDigits cs).1.length :=
    List.length_pos_iff.2
  unfold readNumber at h
  have := @length_readExponent
  have := @length_readFraction
  grind [Option.map_eq_some_iff]

theorem length_readToken {c : Char} {cs : List Char} {t : Token} {rest : List Char}
    (h : readToken c cs = some (t, rest)) : rest.length ≤ cs.length := by
  have := @length_readText
  have := @length_readNumber
  unfold readToken at h
  grind [Option.map_eq_some_iff]

/-- All tokens of a text, blanks between them left out. -/
def tokens (cs : List Char) : Option (List Token) :=
  match cs with
  | [] => some []
  | c :: cs =>
    if isBlank c then tokens cs
    else
      match _h : readToken c cs with
      | none => none
      | some (t, rest) => (tokens rest).map (t :: ·)
termination_by cs.length
decreasing_by
  · simp
  · have := length_readToken _h
    simp only [List.length_cons]; omega

end Logline.Json
