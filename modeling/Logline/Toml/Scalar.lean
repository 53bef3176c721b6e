import Logline.Binary64
import Logline.Json.Token
import Logline.Text
import Logline.Time.Rfc3339
/-!
Unquoted values of a TOML document: truth values, integers in four bases, numbers with a point or an
exponent, and dates and times.
-/
namespace Logline.Toml

/-- Key of the one entry of the table that stands for a date or time. -/
def dateKey : String := "$__toml_private_datetime"

/-- Digits with the underscores between them left out; at no other place may one stand. -/
def ungroup? (isDigit : Char → Bool) (cs : List Char) : Option (List Char) :=
  let groups := Text.splitAt '_' cs
  if groups.all fun g => g ≠ [] && g.all isDigit then some groups.flatten else none

/-- Decimal digits of a whole number; only zero itself begins with a zero. -/
def wholeDigits? (cs : List Char) : Option (List Char) :=
  match cs with
  | '0' :: _ :: _ => none
  | cs => ungroup? Char.isDigit cs

def int64? (n : Int) : Option Json :=
  if -0x8000000000000000 ≤ n ∧ n < 0x8000000000000000 then some (.num (.int n)) else none

def isOctalDigit (c : Char) : Bool := '0' ≤ c && c ≤ '7'

def isBinaryDigit (c : Char) : Bool := c == '0' || c == '1'

/-- Integer in a base given by the letter behind a zero. -/
def basedInteger? (base : Nat) (isDigit : Char → Bool) (cs : List Char) : Option Json := do
  let n ← Text.ofDigits? base (← ungroup? isDigit cs)
  int64? n

def integer? (cs : List Char) : Option Json :=
  match cs with
  | '0' :: 'x' :: cs => basedInteger? 16 Text.isHexDigit cs
  | '0' :: 'o' :: cs => basedInteger? 8 isOctalDigit cs
  | '0' :: 'b' :: cs => basedInteger? 2 isBinaryDigit cs
  | cs => do
    let (negative, cs) := Binary64.readSign cs
    let n := Decimal.value (← wholeDigits? cs)
    int64? (if negative then -(n : Int) else n)

/-- Exponent behind its letter, its sign kept. -/
def exponent? (cs : List Char) : Option (List Char) :=
  match cs with
  | '+' :: cs => ungroup? Char.isDigit cs
  | '-' :: cs => (ungroup? Char.isDigit cs).map ('-' :: ·)
  | cs => ungroup? Char.isDigit cs

/-- Digits, point and exponent without underscores; one of point and exponent is there. -/
def decimal? (cs : List Char) : Option (List Char) :=
  let isLetter (c : Char) : Bool := c == 'e' || c == 'E'
  let (mantissa, rest) := (cs.takeWhile (!isLetter ·), cs.dropWhile (!isLetter ·))
  let exponent := match rest with
    | [] => some []
    | _ :: cs => (exponent? cs).map ('e' :: ·)
  match Text.cut? '.' mantissa, rest with
  | none, [] => none
  | none, _ => do some ((← wholeDigits? mantissa) ++ (← exponent))
  | some (whole, fraction), _ => do
    some ((← wholeDigits? whole) ++ '.' :: (← ungroup? Char.isDigit fraction) ++ (← exponent))

/-- Number that is not whole, or one of the words for infinity and for no number. A positive one
beyond the binary range is refused. -/
def float? (cs : List Char) : Option Json :=
  let (negative, cs) := Binary64.readSign cs
  let number (x : Binary64) : Json := .num (.float (if negative then x.neg else x))
  if cs = ['i', 'n', 'f'] then some (number (.infinite false))
  else if cs = ['n', 'a', 'n'] then some (number .nan)
  else do
    let x ← Binary64.ofText? (← decimal? cs)
    if x.isFinite || negative then some (number x) else none

/-- Fraction of a second without trailing zeros. -/
def fractionText (nanos : Nat) : List Char :=
  if nanos = 0 then []
  else '.' :: ((Decimal.padLeft '0' 9 (Decimal.digits nanos)).reverse.dropWhile (· == '0')).reverse

def two (n : Nat) : List Char :=
  Decimal.padLeft '0' 2 (Decimal.digits n)

def dateText (d : Time.Date) : List Char :=
  Decimal.padLeft '0' 4 (Decimal.digits d.year.natAbs) ++ '-' :: (two d.month ++ '-' :: two d.day)

def clockText (c : Time.Clock) : List Char :=
  two c.hour ++ ':' :: (two c.minute ++ ':' :: (two c.second ++ fractionText c.nanos))

/-- Offset in its shortest notation; `zulu` for one written as a letter. -/
def offsetText (zulu : Bool) (seconds : Int) : List Char :=
  if zulu then ['Z']
  else
    let minutes := seconds.natAbs / 60
    (if seconds < 0 then '-' else '+') :: (two (minutes / 60) ++ ':' :: two (minutes % 60))

/-- Time of day with an offset or without one. -/
def clockAndOffset? (cs : List Char) : Option (List Char) := do
  let (clock, rest) ← Time.readClock cs
  if clock.isValid then
    match rest with
    | [] => some (clockText clock)
    | c :: _ => do
      let offset ← Time.readOffset rest
      some (clockText clock ++ offsetText (c == 'Z' || c == 'z') offset)
  else none

/-- Date, date with time, or time of day, in its shortest notation. -/
def dateTime? (cs : List Char) : Option (List Char) :=
  match Time.readDate cs with
  | some (date, rest) =>
    if date.isValid then
      match rest with
      | [] => some (dateText date)
      | c :: rest => do
        let _ ← Time.readOneOf ['T', 't', ' '] [c]
        some (dateText date ++ 'T' :: (← clockAndOffset? rest))
    else none
  | none => do
    let (clock, rest) ← Time.readClock cs
    if clock.isValid ∧ rest = [] then some (clockText clock) else none

/-- Value of a word that is not quoted. -/
def scalar? (cs : List Char) : Option Json :=
  if cs = ['t', 'r', 'u', 'e'] then some (.bool true)
  else if cs = ['f', 'a', 'l', 's', 'e'] then some (.bool false)
  else
    ((dateTime? cs).map fun text => Json.obj [(dateKey, .str (String.ofList text))])
      <|> float? cs <|> integer? cs

/-- Characters of words. No value ends directly in front of one. -/
def isWordChar (c : Char) : Bool :=
  c.isAlphanum || c == '+' || c == '-' || c == '_' || c == '.' || c == ':'

/-- Word at the front. One blank between a date and a digit belongs to it. -/
def readWord (cs : List Char) : List Char × List Char :=
  let (word, rest) := (cs.takeWhile isWordChar, cs.dropWhile isWordChar)
  match (Time.readDate word), rest with
  | some (_, []), ' ' :: c :: more =>
    if c.isDigit then
      (word ++ ' ' :: (c :: more).takeWhile isWordChar, (c :: more).dropWhile isWordChar)
    else (word, rest)
  | _, _ => (word, rest)

end Logline.Toml
