import Logline.Json
import Logline.Binary64.Shortest
/-!
JSON text of a value, on one line or indented by two spaces a level. Strings escape the quote, the
backslash and the control characters below U+0020, and nothing else.
-/
namespace Logline

namespace Number

/-- Positional between a hundred-thousandth and ten quadrillion, with an exponent outside. -/
def floatText (s : Bool) (m : Nat) (q : Int) : List Char :=
  let d := if m = 0 then ⟨[], 0⟩ else Binary64.shortest .even m q
  let sign := if s then ['-'] else []
  if -5 < d.point ∧ d.point ≤ 16 then
    let (whole, fraction) := d.positional
    sign ++ whole ++ '.' :: (if fraction = [] then ['0'] else fraction)
  else
    let mantissa := match d.digits with
      | first :: second :: rest => first :: '.' :: second :: rest
      | ds => ds
    let e := d.point - 1
    sign ++ mantissa ++ 'e' :: (if 0 < e then '+' :: Decimal.signed e else Decimal.signed e)

/-- Text of a number; what is not finite has no notation and is written as null. -/
def text : Number → List Char
  | .int n => Decimal.signed n
  | .float (.finite s m q _) => floatText s m q
  | .float _ => ['n', 'u', 'l', 'l']

end Number

namespace Json

def hexDigit (n : Nat) : Char :=
  Nat.digitChar n

def escapeChar (c : Char) : List Char :=
  if c = '"' then ['\\', '"']
  else if c = '\\' then ['\\', '\\']
  else if c = '\x08' then ['\\', 'b']
  else if c = '\x0c' then ['\\', 'f']
  else if c = '\n' then ['\\', 'n']
  else if c = '\r' then ['\\', 'r']
  else if c = '\t' then ['\\', 't']
  else if c.toNat < 32 then
    ['\\', 'u', '0', '0', hexDigit (c.toNat / 16), hexDigit (c.toNat % 16)]
  else [c]

/-- Quoted and escaped text. -/
def quote (cs : List Char) : List Char :=
  '"' :: (cs.flatMap escapeChar ++ ['"'])

mutual

/-- Text without blanks between the tokens. -/
def compact : Json → List Char
  | .null => ['n', 'u', 'l', 'l']
  | .bool true => ['t', 'r', 'u', 'e']
  | .bool false => ['f', 'a', 'l', 's', 'e']
  | .num n => n.text
  | .str s => quote s.toList
  | .arr items => '[' :: compactItems items
  | .obj ms => '\x7b' :: compactMembers ms

def compactItems : List Json → List Char
  | [] => [']']
  | [v] => compact v ++ [']']
  | v :: w :: vs => compact v ++ ',' :: compactItems (w :: vs)

def compactMembers : List (String × Json) → List Char
  | [] => ['\x7d']
  | [(k, v)] => quote k.toList ++ ':' :: (compact v ++ ['\x7d'])
  | (k, v) :: m :: ms => quote k.toList ++ ':' :: (compact v ++ ',' :: compactMembers (m :: ms))

end

/-- Line break followed by the blanks of an indentation level. -/
def newline (level : Nat) : List Char :=
  '\n' :: List.replicate (2 * level) ' '

mutual

/-- Text with every item and member on its own line; empty containers stay closed. -/
def indented (level : Nat) : Json → List Char
  | .arr [] => ['[', ']']
  | .arr items => '[' :: indentedItems level items
  | .obj [] => ['\x7b', '\x7d']
  | .obj ms => '\x7b' :: indentedMembers level ms
  | .null => compact .null
  | .bool b => compact (.bool b)
  | .num n => compact (.num n)
  | .str s => compact (.str s)

def indentedItems (level : Nat) : List Json → List Char
  | [] => newline level ++ [']']
  | [v] => newline (level + 1) ++ indented (level + 1) v ++ newline level ++ [']']
  | v :: w :: vs =>
    newline (level + 1) ++ indented (level + 1) v ++ ',' :: indentedItems level (w :: vs)

def indentedMembers (level : Nat) : List (String × Json) → List Char
  | [] => newline level ++ ['\x7d']
  | [(k, v)] =>
    newline (level + 1) ++ quote k.toList ++ ':' :: ' ' :: indented (level + 1) v ++
      newline level ++ ['\x7d']
  | (k, v) :: m :: ms =>
    newline (level + 1) ++ quote k.toList ++ ':' :: ' ' :: indented (level + 1) v ++
      ',' :: indentedMembers level (m :: ms)

end

def pretty (v : Json) : List Char :=
  indented 0 v

/-- Text that stands for a value in a line: a string as it is, any other value as JSON. -/
def display : Json → List Char
  | .str s => s.toList
  | v => compact v

end Json

end Logline
