import Logline.Decimal
import Mathlib.Algebra.Group.Nat.Defs
import Mathlib.Data.List.Induction
/-!
Decimal notation reads back. The digits of a number have its value, also in a fixed number of places,
and a run of digits ends where the first other character stands.
-/
namespace Logline.Decimal

theorem value_digits (n : Nat) : value (digits n) = n := by
  change (Nat.toDigits 10 n).foldl (fun m c => 10 * m + (c.toNat - '0'.toNat)) 0 = n
  rw [← Nat.ofDigitChars_eq_foldl]
  exact Nat.ofDigitChars_ten_toDigits

theorem digits_ne_nil (n : Nat) : digits n ≠ [] :=
  Nat.toDigits_ne_nil

/-- Notation without a leading zero. -/
theorem head?_digits {n : Nat} (h : n ≠ 0) : (digits n).head? ≠ some '0' := by
  unfold digits
  induction n using Nat.base_induction 10 (by decide) with
  | single m hm =>
    rw [Nat.toDigits_of_lt_base hm, List.head?_cons, ne_eq, Option.some.injEq,
      Nat.digitChar_eq_zero]
    exact h
  | digit m k hk hm ih =>
    have hhead := ih (Nat.ne_of_gt hm)
    obtain ⟨c, cs, hcs⟩ := List.exists_cons_of_ne_nil (Nat.toDigits_ne_nil (n := m) (b := 10))
    rw [← Nat.toDigits_append_toDigits (by decide) hm hk, hcs]
    rw [hcs] at hhead
    exact hhead

theorem toNat_of_isDigit {c : Char} (h : c.isDigit = true) : 48 ≤ c.toNat ∧ c.toNat ≤ 57 := by
  simpa [Char.isDigit, UInt32.le_iff_toNat_le] using h

theorem digitValue_digitChar : ∀ d < 10, digitValue (Nat.digitChar d) = d := by
  decide

theorem isDigit_digitChar : ∀ d < 10, (Nat.digitChar d).isDigit = true := by
  decide

theorem digitValue_lt {c : Char} (h : c.isDigit = true) : digitValue c < 10 := by
  have hupper := (toNat_of_isDigit h).2
  rw [digitValue, show '0'.toNat = 48 from rfl]
  omega

theorem digitChar_digitValue {c : Char} (h : c.isDigit = true) :
    Nat.digitChar (digitValue c) = c := by
  have hall : ∀ n < 58, 48 ≤ n → Nat.digitChar (n - 48) = Char.ofNat n := by decide
  obtain ⟨hlower, hupper⟩ := toNat_of_isDigit h
  exact (hall c.toNat (Nat.lt_succ_of_le hupper) hlower).trans (Char.ofNat_toNat c)

theorem value_concat (ds : List Char) (c : Char) :
    value (ds ++ [c]) = 10 * value ds + digitValue c :=
  List.foldl_append

theorem value_append (a b : List Char) : value (a ++ b) = value a * 10 ^ b.length + value b := by
  induction b using List.reverseRecOn with
  | nil => simp
  | append_singleton b c ih =>
    rw [← List.append_assoc, value_concat, ih, value_concat, List.length_append,
      List.length_singleton, Nat.pow_succ, ← Nat.mul_assoc]
    omega

/-- Digits of a number in a fixed number of places. -/
def places : Nat → Nat → List Char
  | 0, _ => []
  | k + 1, n => places k (n / 10) ++ [Nat.digitChar (n % 10)]

theorem length_places (k n : Nat) : (places k n).length = k := by
  induction k generalizing n with
  | zero => rfl
  | succ k ih => rw [places, List.length_append, ih, List.length_singleton]

theorem isDigit_of_mem_places {k n : Nat} {c : Char} (h : c ∈ places k n) : c.isDigit = true := by
  induction k generalizing n with
  | zero => cases h
  | succ k ih =>
    rw [places, List.mem_append, List.mem_singleton] at h
    obtain h | rfl := h
    · exact ih h
    · exact isDigit_digitChar _ (Nat.mod_lt n (by decide))

theorem value_places {k n : Nat} (h : n < 10 ^ k) : value (places k n) = n := by
  induction k generalizing n with
  | zero =>
    obtain rfl : n = 0 := by omega
    rfl
  | succ k ih =>
    have hn : n / 10 < 10 ^ k := by omega
    rw [places, value_concat, ih hn, digitValue_digitChar _ (Nat.mod_lt n (by decide)),
      Nat.div_add_mod]

theorem value_lt {ds : List Char} (h : ∀ c ∈ ds, c.isDigit = true) : value ds < 10 ^ ds.length := by
  induction ds using List.reverseRecOn with
  | nil => exact Nat.one_pos
  | append_singleton ds c ih =>
    rw [List.forall_mem_append, List.forall_mem_singleton] at h
    have hfront := ih h.1
    have hlast := digitValue_lt h.2
    rw [value_concat, List.length_append, List.length_singleton, Nat.pow_succ]
    omega

theorem places_value {ds : List Char} (h : ∀ c ∈ ds, c.isDigit = true) :
    places ds.length (value ds) = ds := by
  induction ds using List.reverseRecOn with
  | nil => rfl
  | append_singleton ds c ih =>
    rw [List.forall_mem_append, List.forall_mem_singleton] at h
    have hlast := digitValue_lt h.2
    have hdiv : (10 * value ds + digitValue c) / 10 = value ds := by omega
    have hmod : (10 * value ds + digitValue c) % 10 = digitValue c := by omega
    rw [value_concat, List.length_append, List.length_singleton, places, hdiv, hmod, ih h.1,
      digitChar_digitValue h.2]

theorem isDigit_of_mem_digits {n : Nat} {c : Char} (h : c ∈ digits n) : c.isDigit = true :=
  Nat.isDigit_of_mem_toDigits (by decide) (by decide) h

theorem isDigit_of_mem_splitDigits {cs : List Char} {c : Char} (h : c ∈ (splitDigits cs).1) :
    c.isDigit = true :=
  List.all_eq_true.mp List.all_takeWhile c h

theorem splitDigits_of_head {cs : List Char} (h : ∀ c ∈ cs.head?, c.isDigit = false) :
    splitDigits cs = ([], cs) := by
  cases cs with
  | nil => rfl
  | cons c cs => simp [splitDigits, h c rfl]

/-- Digits belong to the run that they stand in front of. -/
theorem splitDigits_run_append {ds : List Char} (h : ∀ d ∈ ds, d.isDigit = true)
    (rest : List Char) :
    splitDigits (ds ++ rest) = (ds ++ (splitDigits rest).1, (splitDigits rest).2) := by
  rw [splitDigits, List.takeWhile_append_of_pos h, List.dropWhile_append_of_pos h]
  rfl

/-- Digits in front of what is no digit are split off as they are. -/
theorem splitDigits_run {ds : List Char} (h : ∀ d ∈ ds, d.isDigit = true) {rest : List Char}
    (hrest : ∀ c ∈ rest.head?, c.isDigit = false) : splitDigits (ds ++ rest) = (ds, rest) := by
  rw [splitDigits_run_append h, splitDigits_of_head hrest, List.append_nil]

theorem splitDigits_digits {ds : List Char} (h : ∀ d ∈ ds, d.isDigit = true) :
    splitDigits ds = (ds, []) := by
  have hnil : splitDigits [] = ([], []) := rfl
  have hrun := splitDigits_run_append h []
  rwa [List.append_nil, hnil, List.append_nil] at hrun

theorem splitDigits_run_cons (ds : List Char) (c : Char) (rest : List Char)
    (h : ∀ d ∈ ds, d.isDigit = true) (hc : c.isDigit = false) :
    splitDigits (ds ++ c :: rest) = (ds, c :: rest) :=
  splitDigits_run h (by simpa using hc)

/-- A character that is no digit ends every run in front of it, wherever the text was split. -/
theorem splitDigits_append_cons (cs : List Char) (c : Char) (rest : List Char)
    (hc : c.isDigit = false) :
    splitDigits (cs ++ c :: rest) =
      ((splitDigits cs).1, (splitDigits cs).2 ++ c :: rest) := by
  induction cs with
  | nil => simp [splitDigits, hc]
  | cons d cs ih =>
    simp only [splitDigits, Prod.mk.injEq] at ih ⊢
    by_cases hd : d.isDigit = true
    · simp [hd, ih.1, ih.2]
    · simp [hd]

/-- A run of digits that something stands behind is complete. -/
theorem splitDigits_append_of_rest {cs : List Char} (h : (splitDigits cs).2 ≠ [])
    (rest : List Char) :
    splitDigits (cs ++ rest) = ((splitDigits cs).1, (splitDigits cs).2 ++ rest) := by
  induction cs with
  | nil => exact absurd rfl h
  | cons c cs ih =>
    by_cases hc : c.isDigit = true
    · simp only [splitDigits, List.cons_append, List.takeWhile_cons_of_pos hc,
        List.dropWhile_cons_of_pos hc, Prod.mk.injEq, List.cons.injEq, true_and] at ih h ⊢
      exact ih h
    · simp [splitDigits, hc]

end Logline.Decimal
