import Logline.Text
/-!
Colors of a terminal: sixteen named ones, the terminal's own default, and any mixture of red, green
and blue. A color is written as its name or in hexadecimal notation.
-/
namespace Logline

inductive Color where
  | reset
  | black | darkGrey | red | darkRed | green | darkGreen | yellow | darkYellow
  | blue | darkBlue | magenta | darkMagenta | cyan | darkCyan | white | grey
  | rgb (r g b : UInt8)
  deriving DecidableEq, Repr

namespace Color

def named : List (String × Color) :=
  [("reset", .reset), ("black", .black), ("dark_grey", .darkGrey), ("red", .red),
   ("dark_red", .darkRed), ("green", .green), ("dark_green", .darkGreen), ("yellow", .yellow),
   ("dark_yellow", .darkYellow), ("blue", .blue), ("dark_blue", .darkBlue),
   ("magenta", .magenta), ("dark_magenta", .darkMagenta), ("cyan", .cyan),
   ("dark_cyan", .darkCyan), ("white", .white), ("grey", .grey), ("gray", .grey),
   ("orange", .rgb 255 165 0)]

/-- Channel of two places: two digits, or a plus sign and one digit. -/
def channel? (high low : Char) : Option UInt8 :=
  match Text.hexValue? low with
  | none => none
  | some l =>
    if high = '+' then some l.toUInt8
    else (Text.hexValue? high).map fun h => (16 * h + l).toUInt8

/-- Hexadecimal notation behind its number sign; a single digit stands for two equal ones. -/
def ofHex? : List Char → Option Color
  | [a, b, c, d, e, f] => do
    let r ← channel? a b
    let g ← channel? c d
    let b ← channel? e f
    some (.rgb r g b)
  | [a, b, c] => do
    let r ← Text.hexValue? a
    let g ← Text.hexValue? b
    let b ← Text.hexValue? c
    some (.rgb (17 * r).toUInt8 (17 * g).toUInt8 (17 * b).toUInt8)
  | _ => none

/-- Small form of a letter. Besides A to Z only the kelvin sign has an ASCII letter as its small
form, so this is enough to compare with names in ASCII. -/
def small (c : Char) : Char :=
  if c = '\u212a' then 'k' else c.toLower

/-- Color of a name in any mix of cases. The two names that are no terminal color of their own are
compared in ASCII only; neither has a letter with a second capital form. -/
def ofName? (cs : List Char) : Option Color :=
  named.lookup (String.ofList (cs.map small))

def ofText? (cs : List Char) : Option Color :=
  match cs with
  | '#' :: digits => ofHex? digits
  | name => ofName? name

end Color

end Logline
