/-!
Text as characters: white space, splitting, the case of letters, hexadecimal digits, and the two
encodings as bytes, UTF-8 and percent signs.
-/
namespace Logline.Text

section Blank

/-- Characters with the property `White_Space` of Unicode. -/
def isBlank (c : Char) : Bool :=
  let n := c.toNat
  (9 ≤ n && n ≤ 13) || n == 0x20 || n == 0x85 || n == 0xA0 || n == 0x1680
    || (0x2000 ≤ n && n ≤ 0x200A) || n == 0x2028 || n == 0x2029 || n == 0x202F || n == 0x205F
    || n == 0x3000

/-- Text without the blanks at both ends. -/
def trim (cs : List Char) : List Char :=
  ((cs.dropWhile isBlank).reverse.dropWhile isBlank).reverse

/-- Words between runs of blanks; no word is empty. -/
def words (cs : List Char) : List (List Char) :=
  (cs.splitOnP isBlank).filter (· ≠ [])

end Blank

section Split

/-- Parts between the occurrences of a separator; there is one part more than separators. -/
def splitAt (separator : Char) (cs : List Char) : List (List Char) :=
  cs.splitOnP (· == separator)

theorem splitAt_append_cons (separator : Char) (front rest : List Char) :
    splitAt separator (front ++ separator :: rest) =
      splitAt separator front ++ splitAt separator rest :=
  List.splitOnP_append_cons front rest (beq_self_eq_true separator)

/-- Parts before and after the first occurrence of a separator. -/
def cut? (separator : Char) (cs : List Char) : Option (List Char × List Char) :=
  match cs.span (· != separator) with
  | (_, []) => none
  | (before, _ :: after) => some (before, after)

/-- Whether `part` occurs in `cs`. -/
def contains (part : List Char) : List Char → Bool
  | [] => part.isEmpty
  | c :: cs => part.isPrefixOf (c :: cs) || contains part cs

/-- The first occurrence of `part` replaced. -/
def replaceFirst (part replacement : List Char) : List Char → List Char
  | [] => []
  | c :: cs =>
    if part.isPrefixOf (c :: cs) then replacement ++ (c :: cs).drop part.length
    else c :: replaceFirst part replacement cs

end Split

section Lines

variable {α : Type} [DecidableEq α]

/-- Line without the carriage return at its end. -/
def dropReturn (carriageReturn : α) (line : List α) : List α :=
  if line.getLast? = some carriageReturn then line.dropLast else line

/-- Lines between line feeds; the last counts if it is not empty and keeps a carriage return. -/
def splitLines (lineFeed carriageReturn : α) (xs : List α) : List (List α) :=
  let parts := xs.splitOnP (· == lineFeed)
  parts.dropLast.map (dropReturn carriageReturn) ++ (parts.getLast?.filter (· ≠ [])).toList

def lines (cs : List Char) : List (List Char) :=
  splitLines '\n' '\r' cs

/-- Lines of a text given as bytes. -/
def byteLines (bytes : List UInt8) : List (List UInt8) :=
  splitLines 10 13 bytes

end Lines

section Case

/-- Letters A to Z as small letters, all other characters unchanged. -/
def lowerAscii (cs : List Char) : List Char :=
  cs.map Char.toLower

/-- Letters a to z as capital letters, all other characters unchanged. -/
def upperAscii (cs : List Char) : List Char :=
  cs.map Char.toUpper

end Case

section Hexadecimal

/-- Value of a hexadecimal digit of either case. -/
def hexValue? (c : Char) : Option Nat :=
  if '0' ≤ c ∧ c ≤ '9' then some (c.toNat - '0'.toNat)
  else if 'a' ≤ c ∧ c ≤ 'f' then some (c.toNat - 'a'.toNat + 10)
  else if 'A' ≤ c ∧ c ≤ 'F' then some (c.toNat - 'A'.toNat + 10)
  else none

def isHexDigit (c : Char) : Bool := (hexValue? c).isSome

/-- Number that digits denote in a base; every digit belongs to the base. -/
def ofDigits? (base : Nat) (cs : List Char) : Option Nat :=
  cs.foldlM (fun n c => ((hexValue? c).filter (· < base)).map (base * n + ·)) 0

end Hexadecimal

section Utf8

def toUtf8 (cs : List Char) : List UInt8 :=
  cs.flatMap String.utf8EncodeChar

/-- Text of bytes, if they are its UTF-8 form. -/
def ofUtf8? (bytes : List UInt8) : Option (List Char) :=
  (String.fromUTF8? ⟨bytes.toArray⟩).map String.toList

end Utf8

/-! Percent encoding of one component of a URL. Letters, digits and four marks stand for themselves;
every other character becomes the bytes of its UTF-8 form, each as a percent sign and two digits. -/
namespace Percent

def isUnreserved (c : Char) : Bool :=
  c.isAlphanum || c == '-' || c == '_' || c == '.' || c == '~'

def hexDigit (n : Nat) : Char :=
  (Nat.digitChar n).toUpper

def encodeByte (b : UInt8) : List Char :=
  ['%', hexDigit (b.toNat / 16), hexDigit (b.toNat % 16)]

def encodeChar (c : Char) : List Char :=
  if isUnreserved c then [c] else (String.utf8EncodeChar c).flatMap encodeByte

def encode (cs : List Char) : List Char :=
  cs.flatMap encodeChar

@[simp] theorem encode_append (a b : List Char) : encode (a ++ b) = encode a ++ encode b := by
  simp [encode]

end Percent

end Logline.Text
