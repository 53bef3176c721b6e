import Logline.Proofs.Placeholder
import Mathlib.Algebra.Group.Int.Defs
import Mathlib.Data.Nat.Log
/-!
Integers in decimal notation. As a whole number an integer is shown exactly, in as many digits as it
has or as the precision asks for, whichever are more, and the width only puts blanks in front. So the
integer can be read back from what is shown.
-/
namespace Logline

namespace Decimal

theorem length_digits_le_iff {n k : Nat} (hk : 0 < k) : (digits n).length ≤ k ↔ n < 10 ^ k :=
  Nat.length_toDigits_le_iff (by decide) hk

theorem length_digits (n : Nat) : (digits n).length = Nat.log 10 n + 1 := by
  have hpos : 0 < (digits n).length := Nat.length_toDigits_pos
  apply Nat.le_antisymm
  · exact (length_digits_le_iff (Nat.succ_pos _)).mpr (Nat.lt_pow_succ_log_self (by decide) n)
  · have hlt : n < 10 ^ (digits n).length := (length_digits_le_iff hpos).mp (Nat.le_refl _)
    exact Nat.log_lt_of_lt_pow' (Nat.ne_of_gt hpos) hlt

/-- Zeros in front do not count. -/
theorem value_padLeft (width : Nat) (ds : List Char) : value (padLeft '0' width ds) = value ds := by
  have hzeros (k : Nat) : value (List.replicate k '0') = 0 := by
    induction k with
    | zero => rfl
    | succ k ih => exact ih
  rw [padLeft, value_append, hzeros, Nat.zero_mul, Nat.zero_add]

theorem isDigit_of_mem_padLeft {width : Nat} {ds : List Char} (h : ∀ c ∈ ds, c.isDigit = true) :
    ∀ c ∈ padLeft '0' width ds, c.isDigit = true := by
  intro c hc
  rw [padLeft, List.mem_append, List.mem_replicate] at hc
  rcases hc with ⟨-, rfl⟩ | hc
  · decide
  · exact h c hc

/-- What stands behind the fill, if it does not begin with the same character. -/
theorem dropWhile_padLeft {fill : Char} {cs : List Char} (h : ∀ c ∈ cs.head?, c ≠ fill)
    (width : Nat) : (padLeft fill width cs).dropWhile (· == fill) = cs := by
  have hfill : ∀ c ∈ List.replicate (width - cs.length) fill, (c == fill) = true := by
    intro c hc
    rw [(List.mem_replicate.mp hc).2]
    exact beq_self_eq_true fill
  rw [padLeft, List.dropWhile_append_of_pos hfill]
  cases cs with
  | nil => rfl
  | cons c cs => exact List.dropWhile_cons_of_neg (by simpa using h c rfl)

/-- Natural number that a run of digits denotes; anything else denotes none. -/
def natural? (cs : List Char) : Option Nat :=
  if cs = [] then none
  else if cs.all Char.isDigit then some (value cs) else none

/-- Integer that a decimal notation denotes: digits, with a minus sign in front if it is negative. -/
def integer? : List Char → Option Int
  | '-' :: ds => (natural? ds).map fun m : Nat => -(m : Int)
  | ds => (natural? ds).map fun m : Nat => (m : Int)

theorem natural?_digits {ds : List Char} (hne : ds ≠ []) (h : ∀ c ∈ ds, c.isDigit = true) :
    natural? ds = some (value ds) := by
  rw [natural?, if_neg hne, if_pos (List.all_eq_true.mpr h)]

def sign (n : Int) : List Char :=
  if n < 0 then ['-'] else []

/-- A sign and digits of the magnitude, with zeros in front or not. -/
theorem integer?_sign_append {n : Int} {ds : List Char} (hne : ds ≠ [])
    (h : ∀ c ∈ ds, c.isDigit = true) (hvalue : value ds = n.natAbs) :
    integer? (sign n ++ ds) = some n := by
  have hread := natural?_digits hne h
  rw [hvalue] at hread
  unfold sign
  split
  · rw [List.singleton_append, integer?, hread, Option.map_some]
    exact congrArg some (by omega)
  · have hhead : ∀ tail, ds ≠ '-' :: tail := by
      rintro tail rfl
      exact absurd (h '-' List.mem_cons_self) (by decide)
    rw [List.nil_append, integer?.eq_2 ds hhead, hread, Option.map_some]
    exact congrArg some (by omega)

/-- Decimal notation with at least `places` digits. -/
def signedPadded (places : Nat) (n : Int) : List Char :=
  sign n ++ padLeft '0' places (digits n.natAbs)

theorem signedPadded_zero (n : Int) : signedPadded 0 n = signed n := by
  rw [signedPadded, padLeft, sign, signed, Nat.zero_sub]
  split <;> rfl

theorem padLeft_digits_ne_nil (places n : Nat) : padLeft '0' places (digits n) ≠ [] := by
  rw [padLeft, ne_eq, List.append_eq_nil_iff, not_and]
  exact fun _ => digits_ne_nil n

theorem integer?_signedPadded (places : Nat) (n : Int) :
    integer? (signedPadded places n) = some n := by
  refine integer?_sign_append (padLeft_digits_ne_nil places n.natAbs) ?_ ?_
  · exact isDigit_of_mem_padLeft fun _ => isDigit_of_mem_digits
  · rw [value_padLeft, value_digits]

/-- Nothing but a sign and digits stands in such a notation. -/
theorem minus_or_isDigit_of_mem {places : Nat} {n : Int} {c : Char}
    (h : c ∈ signedPadded places n) : c = '-' ∨ c.isDigit = true := by
  rw [signedPadded, List.mem_append, sign] at h
  rcases h with h | h
  · split at h
    · exact .inl (List.mem_singleton.mp h)
    · cases h
  · exact .inr (isDigit_of_mem_padLeft (fun _ => isDigit_of_mem_digits) c h)

theorem blank_notMem_signedPadded (places : Nat) (n : Int) : ' ' ∉ signedPadded places n := by
  intro h
  rcases minus_or_isDigit_of_mem h with h | h <;> revert h <;> decide

end Decimal

namespace Placeholder

/-- The number that a width or a precision amounts to: one above 1024 counts as absent. -/
def honored : Option Nat → Nat
  | none => 0
  | some k => if k ≤ 1024 then k else 0

theorem getD_capped (n : Option Nat) : (capped n).getD 0 = honored n := by
  cases n with
  | none => rfl
  | some k =>
    rw [honored, capped, Option.filter_some]
    by_cases hk : k ≤ 1024
    · simp [maxCount, hk]
    · simp [maxCount, hk]

theorem integerText_eq {v : Json} {n : Int} (h : integer? v = some n) (places : Option Nat) :
    integerText places v = Decimal.signedPadded (places.getD 0) n := by
  rw [integerText, h, Decimal.signedPadded, Decimal.sign]
  dsimp only
  split <;> rfl

theorem integerText_of_none {v : Json} (h : integer? v = none) (places : Option Nat) :
    integerText places v = notANumber := by
  rw [integerText, h]

/-- Conversions to a whole number. -/
def IsWhole (p : Placeholder) : Prop :=
  p.conversion = 'd' ∨ p.conversion = 'i'

instance : DecidablePred IsWhole :=
  fun p => inferInstanceAs (Decidable (p.conversion = 'd' ∨ p.conversion = 'i'))

theorem IsWhole.body_eq {p : Placeholder} (hp : p.IsWhole) (v : Json) :
    p.body v = integerText (capped p.precision) v := by
  rcases hp with hp | hp <;> simp only [body, hp]

/-- Whatever stands for an integer is shown as the integer. -/
theorem IsWhole.format_eq {p : Placeholder} (hp : p.IsWhole) {v : Json} {n : Int}
    (h : integer? v = some n) :
    p.format v =
      Decimal.padLeft ' ' (honored p.width) (Decimal.signedPadded (honored p.precision) n) := by
  rw [format, hp.body_eq, integerText_eq h, getD_capped, getD_capped]

/-- Without its blanks what is shown denotes the integer. -/
theorem IsWhole.integer?_dropWhile_format {p : Placeholder} (hp : p.IsWhole) {v : Json} {n : Int}
    (h : integer? v = some n) :
    Decimal.integer? ((p.format v).dropWhile (· == ' ')) = some n := by
  rw [hp.format_eq h, Decimal.dropWhile_padLeft, Decimal.integer?_signedPadded]
  rintro c hc rfl
  exact Decimal.blank_notMem_signedPadded _ _ (List.mem_of_mem_head? hc)

/-- Different integers are shown differently. -/
theorem IsWhole.format_inj {p : Placeholder} (hp : p.IsWhole) {v w : Json} {m n : Int}
    (hv : integer? v = some m) (hw : integer? w = some n) :
    p.format v = p.format w ↔ m = n := by
  constructor
  · intro heq
    have hread := hp.integer?_dropWhile_format hv
    rw [heq, hp.integer?_dropWhile_format hw] at hread
    exact (Option.some.inj hread).symm
  · rintro rfl
    rw [hp.format_eq hv, hp.format_eq hw]

/-- An integer is shown by its sign, as many digits as it has or the precision asks for, and blanks
in front up to the width; the sign and the digits denote it. -/
theorem format_integer (p : Placeholder) (n : Int) (hp : p.IsWhole) :
    ∃ ds : List Char,
      let body := (if n < 0 then ['-'] else []) ++ ds
      p.format (.num (.int n)) = List.replicate (honored p.width - body.length) ' ' ++ body ∧
        (∀ c ∈ ds, c.isDigit = true) ∧
        ds.length = max (honored p.precision) (Nat.log 10 n.natAbs + 1) ∧
        Decimal.integer? body = some n := by
  refine ⟨Decimal.padLeft '0' (honored p.precision) (Decimal.digits n.natAbs), ?_, ?_, ?_, ?_⟩
  · exact hp.format_eq rfl
  · exact Decimal.isDigit_of_mem_padLeft fun _ => Decimal.isDigit_of_mem_digits
  · rw [Decimal.length_padLeft, Decimal.length_digits]
  · exact Decimal.integer?_signedPadded (honored p.precision) n

/-- The least integer of 64 bits has no positive counterpart; its digits are those of the magnitude. A
width above the greatest counts for nothing. -/
theorem format_integer_least :
    let p : Placeholder := ⟨some 18446744073709551615, some 21, 'i'⟩
    p.IsWhole ∧
      p.format (.num (.int (-0x8000000000000000))) = "-009223372036854775808".toList ∧
      Decimal.integer? "-009223372036854775808".toList = some (-0x8000000000000000) := by
  intro p
  have hp : p.IsWhole := .inr rfl
  obtain ⟨ds, hformat, -, -, hread⟩ := format_integer p (-0x8000000000000000) hp
  have hshown : p.format (.num (.int (-0x8000000000000000))) = "-009223372036854775808".toList := by
    decide +kernel
  have hwidth : honored p.width = 0 := by decide
  rw [hshown, hwidth, Nat.zero_sub, List.replicate_zero, List.nil_append] at hformat
  exact ⟨hp, hshown, hformat ▸ hread⟩

end Placeholder

end Logline
