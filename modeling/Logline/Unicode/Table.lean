import Logline.Decimal
import Logline.Text
/-!
Tables of a property of characters. An entry holds from its code point up to the next entry. In
writing, an entry is a word: a code point in hexadecimal digits, of which letters are small, and
behind them a capital letter or a point where the value begins.

The tables of this library agree with version 17.0 of the Unicode Character Database. Only the
Balinese vowel sign U+1B3A counts as a spacing mark, as the sign U+1B3B composed from it does: it is
written from left to right and breaks the connection of letters.
-/
namespace Logline.Unicode

abbrev Table (α : Type) := List (Nat × α)

namespace Table

/-- The entry that holds at a code point: the last one that begins there or before. -/
def lookup? {α : Type} (table : Table α) (n : Nat) : Option (Nat × α) :=
  match table with
  | [] => none
  | (start, value) :: rest =>
    if n < start then none else (lookup? rest n).getD (start, value)

/-- Value at a code point; `default` in front of the first entry. -/
def value {α : Type} (default : α) (table : Table α) (n : Nat) : α :=
  ((table.lookup? n).map (·.2)).getD default

/-- Whether a character belongs to the digits of a code point. -/
def isCodeDigit (c : Char) : Bool :=
  Text.isHexDigit c && !c.isUpper

/-- Number of a code point at the front of a word, and the rest of the word. -/
def cutCode (word : List Char) : Nat × List Char :=
  ((Text.ofDigits? 16 (word.takeWhile isCodeDigit)).getD 0, word.dropWhile isCodeDigit)

/-- Table written on lines, with a reading of its values. -/
def ofLines {α : Type} (read : List Char → α) (lines : List String) : Table α :=
  (lines.flatMap fun line => Text.words line.toList).map fun word =>
    ((cutCode word).1, read (cutCode word).2)

end Table

end Logline.Unicode
