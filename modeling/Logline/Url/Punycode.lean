/-!
Punycode: letters beyond ASCII written in ASCII. Each digit adds to a distance; a finished distance
says which letter comes next and where it is inserted.
-/
namespace Logline.Url.Punycode

structure Progress where
  output : List Nat
  /-- Letter and place reached, counted together. -/
  code : Nat
  index : Nat
  bias : Nat
  /-- Place at which the current distance began, and weight and position of its next digit. -/
  start : Nat
  weight : Nat
  position : Nat

def digitValue? (c : Char) : Option Nat :=
  let n := c.toNat
  if c.isDigit then some (n - '0'.toNat + 26)
  else if c.isAlpha then some (c.toLower.toNat - 'a'.toNat)
  else none

def threshold (position bias : Nat) : Nat :=
  max 1 (min 26 (position - bias))

def shrink (delta k : Nat) : Nat × Nat :=
  if 455 < delta then shrink (delta / 35) (k + 36) else (delta, k)
termination_by delta
decreasing_by exact Nat.div_lt_self (by omega) (by omega)

/-- Bias after a distance. -/
def adapt (delta length : Nat) (first : Bool) : Nat :=
  let delta := if first then delta / 700 else delta / 2
  let (delta, k) := shrink (delta + delta / length) 0
  k + 36 * delta / (delta + 38)

/-- Insert the letter that a finished distance leads to. -/
def insert (p : Progress) (index : Nat) : Option Progress :=
  let length := p.output.length + 1
  let code := p.code + index / length
  let place := index % length
  if code.isValidChar then
    some {
      output := p.output.take place ++ code :: p.output.drop place
      code
      index := place + 1
      bias := adapt (index - p.start) length (p.start == 0)
      start := place + 1
      weight := 1
      position := 36 }
  else none

/-- Distances and weights have at most 32 bits. -/
def bounded? (n : Nat) : Option Nat :=
  if n < 0x100000000 then some n else none

def step (p : Progress) (c : Char) : Option Progress := do
  let digit ← digitValue? c
  let index ← bounded? (p.index + digit * p.weight)
  let t := threshold p.position p.bias
  if digit < t then insert p index
  else
    let weight ← bounded? (p.weight * (36 - t))
    some { p with index, weight, position := p.position + 36 }

/-- Letters in front of the last hyphen and the digits behind it. Without letters in front there is
nothing to divide, and all are digits. -/
def split (cs : List Char) : List Char × List Char :=
  match (cs.reverse.dropWhile (· != '-')) with
  | [] | [_] => ([], cs)
  | _ :: basic => (basic.reverse, (cs.reverse.takeWhile (· != '-')).reverse)

/-- Letters of an encoded label; none if a digit is wrong or the last distance is unfinished. -/
def decode? (cs : List Char) : Option (List Char) := do
  let (basic, digits) := split cs
  let p ← digits.foldlM step ⟨basic.map Char.toNat, 128, 0, 72, 0, 1, 36⟩
  if p.weight = 1 then some (p.output.map Char.ofNat) else none

end Logline.Url.Punycode
