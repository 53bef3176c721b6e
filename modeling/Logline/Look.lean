import Logline.Color
import Logline.Decimal
/-!
How a stretch of text looks on a terminal: looks written as CSS declarations, and the escape
sequences that switch a terminal to a look and back.
-/
namespace Logline

structure Look where
  foreground : Option Color
  background : Option Color
  bold : Bool
  italic : Bool
  underline : Bool
  deriving DecidableEq, Repr

namespace Look

/-- The terminal's own look. -/
def plain : Look :=
  ⟨none, none, false, false, false⟩

def hasAttribute (l : Look) : Bool :=
  l.bold || l.italic || l.underline

/-! Colors, weight, slant and underlining are understood; every other declaration is passed over.
Attributes are only ever added, colors follow the last declaration. -/

/-- Weights by name or from 600 up are bold; a weight has at most 16 bits and may carry a plus. -/
def isBold (value : List Char) : Bool :=
  let digits := match value with
    | '+' :: ds => ds
    | ds => ds
  let weight := Decimal.value digits
  value == "bold".toList || value == "bolder".toList ||
    (digits != [] && digits.all Char.isDigit && 600 ≤ weight && weight < 0x10000)

def declare (l : Look) (property value : List Char) : Look :=
  let property := String.ofList (Text.lowerAscii (Text.trim property))
  let value := Text.trim value
  if property = "color" then { l with foreground := Color.ofText? value }
  else if property = "background" ∨ property = "background-color" then
    { l with background := (Text.words value).findSome? Color.ofText? }
  else if property = "font-weight" then { l with bold := l.bold || isBold value }
  else if property = "font-style" then
    { l with italic := l.italic || value == "italic".toList || value == "oblique".toList }
  else if property = "text-decoration" ∨ property = "text-decoration-line" then
    { l with underline := l.underline || Text.contains "underline".toList value }
  else l

/-- Property and value of each declaration; a part without a colon declares nothing. -/
def declarations (css : List Char) : List (List Char × List Char) :=
  (Text.splitAt ';' css).filterMap (Text.cut? ':')

/-- Look after all declarations in order. -/
def ofCss (css : List Char) : Look :=
  (declarations css).foldl (fun l d => l.declare d.1 d.2) .plain

end Look

namespace Color

/-- Number of a named color in the terminal's palette. -/
def index : Color → Nat
  | .black => 0
  | .darkRed => 1
  | .darkGreen => 2
  | .darkYellow => 3
  | .darkBlue => 4
  | .darkMagenta => 5
  | .darkCyan => 6
  | .grey => 7
  | .darkGrey => 8
  | .red => 9
  | .green => 10
  | .yellow => 11
  | .blue => 12
  | .magenta => 13
  | .cyan => 14
  | .white => 15
  | .reset | .rgb .. => 0

end Color

namespace Look

/-- Escape sequence with the given parameters. -/
def escape (parameters : List Nat) : List Char :=
  '\x1b' :: '[' :: (List.intercalate [';'] (parameters.map Decimal.digits) ++ ['m'])

/-- Sequence that selects a color; `base` is 38 for the foreground and 48 for the background. -/
def select (base : Nat) : Color → List Char
  | .reset => escape [base + 1]
  | .rgb r g b => escape [base, 2, r.toNat, g.toNat, b.toNat]
  | c => escape [base, 5, c.index]

/-- Sequences in front of a text. -/
def enter (l : Look) : List Char :=
  (l.background.map (select 48)).getD [] ++ (l.foreground.map (select 38)).getD [] ++
    (if l.bold then escape [1] else []) ++ (if l.italic then escape [3] else []) ++
    (if l.underline then escape [4] else [])

/-- Sequences behind a text: one that resets everything, or one for each color. -/
def leave (l : Look) : List Char :=
  if l.hasAttribute then escape [0]
  else
    (if l.background.isSome then escape [49] else []) ++
      (if l.foreground.isSome then escape [39] else [])

/-- Text shown in a look; nothing surrounds an empty text or the plain look. -/
def paint (l : Look) (cs : List Char) : List Char :=
  if cs = [] ∨ l = plain then cs else l.enter ++ cs ++ l.leave

end Look

end Logline
