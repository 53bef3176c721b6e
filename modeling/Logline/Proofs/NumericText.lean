import Logline.Proofs.IntegerText
import Logline.Proofs.WholeNumber
/-!
Integers given as text. Their digits are read as a binary number, which holds them only as far as its
mantissa reaches, and the integer part of that is kept within 64 bits with a sign. So text and number
are shown alike for the integers that come through this unchanged, and for no others.
-/
namespace Logline

theorem Text.trim_eq {cs : List Char} (h : ∀ c ∈ cs, isBlank c = false) : trim cs = cs := by
  have hfront {ds : List Char} (hds : ∀ c ∈ ds, isBlank c = false) : ds.dropWhile isBlank = ds := by
    cases ds with
    | nil => rfl
    | cons c ds => exact List.dropWhile_cons_of_neg (by simp [hds c List.mem_cons_self])
  rw [trim, hfront h, hfront fun c hc => h c (List.mem_reverse.mp hc), List.reverse_reverse]

namespace Decimal

theorem isBlank_of_isDigit {c : Char} (h : c.isDigit = true) : Text.isBlank c = false := by
  have := toNat_of_isDigit h
  simp only [Text.isBlank, Bool.or_eq_false_iff, Bool.and_eq_false_iff, decide_eq_false_iff_not,
    beq_eq_false_iff_ne]
  omega

theorem toLower_of_isDigit {c : Char} (h : c.isDigit = true) : c.toLower = c := by
  have := toNat_of_isDigit h
  unfold Char.toLower
  rw [dif_neg]
  rintro ⟨hcapital, -⟩
  have hle : 65 ≤ c.toNat := UInt32.le_iff_toNat_le.mp hcapital
  omega

theorem isBlank_of_mem_signed {n : Int} {c : Char} (h : c ∈ signed n) : Text.isBlank c = false := by
  rw [← signedPadded_zero] at h
  rcases minus_or_isDigit_of_mem h with rfl | h
  · decide
  · exact isBlank_of_isDigit h

end Decimal

namespace Binary64

theorem readSign_signed (n : Int) :
    readSign (Decimal.signed n) = (decide (n < 0), Decimal.digits n.natAbs) := by
  by_cases hn : n < 0
  · rw [Decimal.signed, if_pos hn, decide_eq_true hn]
    rfl
  · rw [Decimal.signed, if_neg hn, decide_eq_false hn]
    have hsign : ∀ c ∈ ['-', '+'], c ∉ Decimal.digits n.natAbs := by
      intro c hc hmem
      have hdigit := Decimal.isDigit_of_mem_digits hmem
      revert hc hdigit
      simp only [List.mem_cons, List.not_mem_nil, or_false]
      rintro (rfl | rfl) <;> decide
    unfold readSign
    split
    · rename_i heq
      exact absurd (heq ▸ List.mem_cons_self) (hsign '-' (by decide))
    · rename_i heq
      exact absurd (heq ▸ List.mem_cons_self) (hsign '+' (by decide))
    · rfl

/-- A word begins with a letter. -/
theorem readWord_of_isDigit {negative : Bool} {cs : List Char} (h : ∀ c ∈ cs, c.isDigit = true) :
    readWord negative cs = none := by
  have hword (c : Char) (hc : c.isDigit = false) : ¬ ∃ rest, cs.map Char.toLower = c :: rest := by
    rintro ⟨rest, heq⟩
    cases cs with
    | nil => cases heq
    | cons d ds =>
      have hd := h d List.mem_cons_self
      rw [List.map_cons, Decimal.toLower_of_isDigit hd] at heq
      rw [(List.cons.inj heq).1, hc] at hd
      cases hd
  rw [readWord, if_neg, if_neg]
  · exact fun heq => hword 'n' (by decide) ⟨_, heq⟩
  · rintro (heq | heq)
    · exact hword 'i' (by decide) ⟨_, heq⟩
    · exact hword 'i' (by decide) ⟨_, heq⟩

theorem ofDecimal_zero {negative : Bool} {m : Nat} (h : m < 10 ^ 20) :
    ofDecimal negative m 0 = ofRatio negative m 1 := by
  have hlength : (Decimal.digits m).length ≤ 20 :=
    (Decimal.length_digits_le_iff (by decide)).mpr h
  unfold ofDecimal
  by_cases hm : m = 0
  · rw [if_pos (.inl hm), ofRatio, if_pos hm]
  · rw [if_neg (by omega), if_neg (by omega)]
    simp

theorem readMagnitude_digits (negative : Bool) {m : Nat} (h : m < 10 ^ 20) :
    readMagnitude negative (Decimal.digits m) = some (ofRatio negative m 1) := by
  have hsplit : Decimal.splitDigits (Decimal.digits m) = (Decimal.digits m, []) :=
    Decimal.splitDigits_digits fun _ => Decimal.isDigit_of_mem_digits
  simp only [readMagnitude, hsplit]
  rw [if_neg fun hnil => Decimal.digits_ne_nil m hnil.1]
  simp only [readExponent, Option.map_some, List.append_nil, Decimal.value_digits, List.length_nil]
  exact congrArg some (ofDecimal_zero h)

/-- The notation of an integer is read as the number next to it. -/
theorem ofText?_signed {n : Int} (h : n.natAbs < 10 ^ 20) :
    ofText? (Decimal.signed n) = some (ofInt n) := by
  have hword : readWord (decide (n < 0)) (Decimal.digits n.natAbs) = none :=
    readWord_of_isDigit fun _ => Decimal.isDigit_of_mem_digits
  simp only [ofText?, readSign_signed, hword, readMagnitude_digits _ h]
  rfl

/-- The nearest integer with 53 significant bits. -/
def nearestInteger (n : Int) : Int :=
  if n < 0 then -(nearestWhole n.natAbs : Int) else nearestWhole n.natAbs

theorem truncate?_ofInt {n : Int} (h : n.natAbs < 2 ^ 64) :
    (ofInt n).truncate? = some (nearestInteger n) := by
  rw [ofInt, truncate?_ofRatio_one _ h, nearestInteger]
  simp only [decide_eq_true_eq]

/-- An integer is its own nearest one exactly if it is short. -/
theorem nearestInteger_eq_iff {n : Int} : nearestInteger n = n ↔ IsShort n.natAbs := by
  rw [← nearestWhole_eq_iff, nearestInteger]
  split <;> omega

end Binary64

namespace Placeholder
open Binary64

/-- The text of an integer stands for the nearest short integer, kept within 64 bits with a sign. -/
theorem integer?_signed {n : Int} (h : n.natAbs < 2 ^ 64) :
    integer? (.str (String.ofList (Decimal.signed n))) = some (saturate (nearestInteger n)) := by
  have htrim : Text.trim (Decimal.signed n) = Decimal.signed n :=
    Text.trim_eq fun _ => Decimal.isBlank_of_mem_signed
  have hread : ofText? (Decimal.signed n) = some (ofInt n) :=
    ofText?_signed (Nat.lt_of_lt_of_le h (by decide))
  rw [integer?, number?, String.toList_ofList, htrim, hread, Option.bind_some, truncate?_ofInt h]
  · rfl
  · intro m hm
    cases hm

/-- A negative integer of 64 bits stays one. -/
theorem le_nearestInteger {n : Int} (hmin : -2 ^ 63 ≤ n) (hn : n < 0) :
    -2 ^ 63 ≤ nearestInteger n ∧ nearestInteger n ≤ 0 := by
  have hle : nearestWhole n.natAbs ≤ 2 ^ 63 := by
    by_cases heq : n.natAbs = 2 ^ 63
    · rw [heq]
      decide +kernel
    · exact nearestWhole_le (by omega)
  rw [nearestInteger, if_pos hn]
  omega

/-- Text stands for the integer itself if the integer is short and fits 64 bits with a sign. The
greatest integer of that size is not short, but the power of two it is rounded to is cut down to it. -/
theorem saturate_nearestInteger_eq_iff {n : Int} (hmin : -2 ^ 63 ≤ n) :
    saturate (nearestInteger n) = n ↔ (n < 2 ^ 63 ∧ IsShort n.natAbs) ∨ n = 2 ^ 63 - 1 := by
  rw [← nearestInteger_eq_iff, saturate]
  by_cases hn : n < 0
  · have hrange := le_nearestInteger hmin hn
    omega
  · by_cases hgreatest : n = 2 ^ 63 - 1
    · -- It is rounded to the next power of two, and the bound takes that back.
      subst hgreatest
      decide +kernel
    · have hpos : 0 ≤ nearestInteger n := by
        rw [nearestInteger, if_neg hn]
        exact Int.natCast_nonneg _
      omega

/-- The text of an integer of 64 bits is shown as the nearest short integer that fits 64 bits with a
sign. So text and number are shown alike exactly if the integer is that, or is the greatest one that
fits. -/
theorem format_signed_iff (p : Placeholder) (n : Int) (hp : p.IsWhole) (hmin : -2 ^ 63 ≤ n)
    (hmax : n < 2 ^ 64) :
    p.format (.str (String.ofList (Decimal.signed n))) =
        p.format (.num (.int (saturate (nearestInteger n)))) ∧
      (p.format (.str (String.ofList (Decimal.signed n))) = p.format (.num (.int n)) ↔
        (n < 2 ^ 63 ∧ IsShort n.natAbs) ∨ n = 2 ^ 63 - 1) := by
  have htext := integer?_signed (n := n) (by omega)
  have hnumber (m : Int) : integer? (.num (.int m)) = some m := rfl
  constructor
  · exact (hp.format_inj htext (hnumber _)).mpr rfl
  · rw [hp.format_inj htext (hnumber n)]
    exact saturate_nearestInteger_eq_iff hmin

/-- The least integer is a power of two, so its text is shown like the number. -/
theorem format_signed_least :
    let p : Placeholder := ⟨some 24, some 21, 'd'⟩
    let n : Int := -0x8000000000000000
    p.IsWhole ∧ (-2 ^ 63 ≤ n ∧ n < 2 ^ 64) ∧ (n < 2 ^ 63 ∧ IsShort n.natAbs) ∧
      p.format (.str (String.ofList (Decimal.signed n))) = p.format (.num (.int n)) := by
  intro p n
  have hp : p.IsWhole := .inl rfl
  have hshort : n < 2 ^ 63 ∧ IsShort n.natAbs := ⟨by decide, 1, 63, by decide, by decide⟩
  exact ⟨hp, ⟨by decide, by decide⟩, hshort,
    (format_signed_iff p n hp (by decide) (by decide)).2.mpr (.inl hshort)⟩

/-- One more than the greatest mantissa loses its last digit, and the greatest integer without a sign
nearly half of what it is. -/
theorem format_signed_ne :
    let p : Placeholder := ⟨none, none, 'd'⟩
    p.format (.str "9007199254740993") = "9007199254740992".toList ∧
      p.format (.num (.int 9007199254740993)) = "9007199254740993".toList ∧
      p.format (.str "18446744073709551615") = "9223372036854775807".toList ∧
      p.format (.num (.int 18446744073709551615)) = "18446744073709551615".toList := by
  decide +kernel

end Placeholder

end Logline
