/-!
Decimal notation of natural numbers as lists of digits, and padding on the left.
-/
namespace Logline.Decimal

/-- Decimal digits of `n`, most significant first; zero has one digit. -/
def digits (n : Nat) : List Char :=
  Nat.toDigits 10 n

def digitValue (c : Char) : Nat :=
  c.toNat - '0'.toNat

/-- Number that a run of decimal digits denotes. -/
def value (cs : List Char) : Nat :=
  cs.foldl (fun n c => 10 * n + digitValue c) 0

/-- Decimal notation with a minus sign in front of a negative number. -/
def signed (n : Int) : List Char :=
  if n < 0 then '-' :: digits n.natAbs else digits n.natAbs

/-- Fill on the left up to `width` characters. -/
def padLeft (fill : Char) (width : Nat) (cs : List Char) : List Char :=
  List.replicate (width - cs.length) fill ++ cs

@[simp] theorem value_nil : value [] = 0 := rfl

@[simp] theorem length_padLeft (fill : Char) (width : Nat) (cs : List Char) :
    (padLeft fill width cs).length = max width cs.length := by
  simp [padLeft]; omega

/-- Longest run of digits at the front, and what follows it. -/
def splitDigits (cs : List Char) : List Char × List Char :=
  (cs.takeWhile Char.isDigit, cs.dropWhile Char.isDigit)

@[simp] theorem splitDigits_append (cs : List Char) :
    (splitDigits cs).1 ++ (splitDigits cs).2 = cs :=
  List.takeWhile_append_dropWhile

theorem length_splitDigits_rest (cs : List Char) : (splitDigits cs).2.length ≤ cs.length :=
  (List.dropWhile_suffix _).length_le

end Logline.Decimal
