import Logline.Proofs.FalsyField
import Logline.Proofs.WholeNumber
import Logline.Proofs.Width
import Mathlib.Algebra.GroupWithZero.Nat
import Mathlib.Algebra.Order.Group.Nat
/-!
Bounds on the length of what is shown. A width or a precision adds at most the greatest count to a
value, however long the digits are that ask for more; so a message is no longer than its template and
its values with such an allowance for each of them.
-/
namespace Logline

namespace Binary64

theorem roundDiv_scaled_le {m bound k : Nat} {q : Int} (hm : m ≤ bound) (hq : q.toNat ≤ k)
    (places : Nat) :
    roundDiv (m * 10 ^ places * 2 ^ q.toNat) (2 ^ (-q).toNat) ≤ bound * 10 ^ places * 2 ^ k + 1 :=
  calc roundDiv (m * 10 ^ places * 2 ^ q.toNat) (2 ^ (-q).toNat)
      ≤ m * 10 ^ places * 2 ^ q.toNat / 2 ^ (-q).toNat + 1 := roundDiv_le _ _
    _ ≤ m * 10 ^ places * 2 ^ q.toNat + 1 := Nat.succ_le_succ (Nat.div_le_self _ _)
    _ ≤ bound * 10 ^ places * 2 ^ k + 1 := Nat.succ_le_succ (Nat.mul_le_mul
        (Nat.mul_le_mul_right _ hm) (Nat.pow_le_pow_right (by decide) hq))

theorem roundDiv_scaled_lt {m : Nat} {q : Int} (hm : m < 2 ^ 53) (hq : q ≤ 971) (places : Nat) :
    roundDiv (m * 10 ^ places * 2 ^ q.toNat) (2 ^ (-q).toNat) < 10 ^ (309 + places) := by
  have hround := roundDiv_scaled_le (Nat.le_of_lt hm) (show q.toNat ≤ 971 by omega) places
  have hpos : 0 < 10 ^ places := Nat.pow_pos (by decide)
  calc roundDiv (m * 10 ^ places * 2 ^ q.toNat) (2 ^ (-q).toNat)
      ≤ 2 ^ 53 * 10 ^ places * 2 ^ 971 + 10 ^ places := by omega
    _ = (2 ^ 53 * 2 ^ 971 + 1) * 10 ^ places := by
        rw [Nat.add_mul, Nat.one_mul, Nat.mul_right_comm]
    _ < 10 ^ 309 * 10 ^ places := Nat.mul_lt_mul_of_pos_right (by decide +kernel) hpos
    _ = 10 ^ (309 + places) := by rw [Nat.pow_add]

/-- The greatest number has 309 digits in front of the point. -/
theorem length_fixedText_le (places : Nat) (x : Binary64) :
    (x.fixedText places).length ≤ places + 311 := by
  cases x with
  | nan => simp [fixedText]
  | infinite s => cases s <;> simp [fixedText]
  | finite s m q h =>
    obtain ⟨hm, -, hq, -⟩ := h
    have hdigits := (Decimal.length_digits_le_iff (k := 309 + places) (by omega)).mpr
      (roundDiv_scaled_lt hm hq places)
    simp only [fixedText, scaled, Nat.pow_eq, Nat.one_mul]
    generalize hds : Decimal.padLeft '0' (places + 1)
      (Decimal.digits (roundDiv (m * 10 ^ places * 2 ^ q.toNat) (2 ^ (-q).toNat))) = ds
    have hlength : ds.length ≤ 309 + places := by
      rw [← hds, Decimal.length_padLeft]
      omega
    have hsign : (if s = true then ['-'] else []).length ≤ 1 := by cases s <;> decide
    have hfraction : (if places = 0 then [] else '.' :: ds.drop (ds.length - places)).length ≤
        1 + places := by
      split
      · simp
      · simp only [List.length_cons, List.length_drop]
        omega
    have hwhole : (ds.take (ds.length - places)).length ≤ 309 := by
      rw [List.length_take]
      omega
    simp only [List.length_append]
    omega

end Binary64

namespace Placeholder

theorem honored_le (n : Option Nat) : honored n ≤ 1024 := by
  unfold honored
  split
  · omega
  · split <;> omega

/-- Length of a value in the conversion that shows it longest, without width and precision. -/
def longest (v : Json) : Nat :=
  ((conversions.map fun c => (format ⟨none, none, c⟩ v).length).max?).getD 0

/-- Every other conversion shows a value like `s`. -/
theorem body_of_notMem {p : Placeholder} (h : p.conversion ∉ conversions) (v : Json) :
    p.body v = v.display := by
  have hne {c : Char} (hc : c ∈ conversions) : p.conversion ≠ c := fun heq => h (heq ▸ hc)
  unfold body
  split
  case h_6 => rfl
  all_goals exact absurd ‹_› (hne (by decide))

theorem length_format_le_longest (c : Char) (v : Json) :
    (format ⟨none, none, c⟩ v).length ≤ longest v := by
  have hmem {c : Char} (hc : c ∈ conversions) : (format ⟨none, none, c⟩ v).length ≤ longest v :=
    List.le_max?_getD_of_mem (List.mem_map_of_mem hc)
  by_cases hc : c ∈ conversions
  · exact hmem hc
  · have htext := hmem (c := 's') (by decide)
    rw [format_of_width rfl] at htext ⊢
    rw [body_of_notMem hc]
    exact htext

theorem length_body_le_longest (c : Char) (v : Json) :
    (body ⟨none, none, c⟩ v).length ≤ longest v := by
  rw [← format_of_width rfl]
  exact length_format_le_longest c v

theorem exists_length_eq_longest (v : Json) :
    ∃ c : Char, (format ⟨none, none, c⟩ v).length = longest v := by
  obtain ⟨n, hn⟩ : ∃ n, (conversions.map fun c => (format ⟨none, none, c⟩ v).length).max? = some n :=
    Option.isSome_iff_exists.mp (List.isSome_max?_of_ne_nil (by simp [conversions]))
  obtain ⟨c, -, hc⟩ := List.mem_map.mp (List.max?_mem hn)
  exact ⟨c, by rw [hc, longest, hn, Option.getD_some]⟩

theorem length_display_le (v : Json) : v.display.length ≤ longest v :=
  length_body_le_longest 's' v

/-- A precision adds no more digits to an integer than it asks for. -/
theorem length_integerText_le (places : Option Nat) (v : Json) :
    (integerText places v).length ≤ places.getD 0 + (integerText none v).length := by
  cases h : integer? v with
  | none =>
    rw [integerText_of_none h, integerText_of_none h]
    omega
  | some n =>
    rw [integerText_eq h, integerText_eq h, Decimal.signedPadded, Decimal.signedPadded]
    simp only [List.length_append, Decimal.length_padLeft, Option.getD_none]
    omega

theorem length_decimalText_le (places : Option Nat) (v : Json) :
    (decimalText places v).length ≤ places.getD 0 + 311 + (decimalText none v).length := by
  cases h : number? v with
  | none =>
    simp only [decimalText, h]
    omega
  | some x =>
    cases places with
    | none => omega
    | some n =>
      have hfixed := x.length_fixedText_le n
      simp only [decimalText, h, Option.getD_some]
      omega

theorem getD_capped_le (n : Option Nat) : (capped n).getD 0 ≤ 1024 := by
  rw [getD_capped]
  exact honored_le n

/-- A precision makes a value longer by a bounded number of characters. -/
theorem length_body_le (p : Placeholder) (v : Json) :
    (p.body v).length ≤ longest v + 1 + 2 * 1024 := by
  have hcount := getD_capped_le p.precision
  have hinteger := length_integerText_le (capped p.precision) v
  have hdecimal := length_decimalText_le (capped p.precision) v
  have hd : (integerText none v).length ≤ longest v := length_body_le_longest 'd' v
  have hf : (decimalText none v).length ≤ longest v := length_body_le_longest 'f' v
  have ho : v.compact.length ≤ longest v := length_body_le_longest 'o' v
  have hO : v.pretty.length ≤ longest v := length_body_le_longest 'O' v
  have hs := length_display_le v
  -- Only the numbers look at the precision, and it is at most 1024 for them.
  unfold body
  split <;> omega

/-- So does a width. -/
theorem length_format_le (p : Placeholder) (v : Json) :
    (p.format v).length ≤ longest v + 1 + 2 * 1024 := by
  have hbody := length_body_le p v
  have hwidth := honored_le p.width
  rw [format, getD_capped, Decimal.length_padLeft]
  omega

end Placeholder

namespace Template

def Piece.length : Piece → Nat
  | .text t => t.length
  | .placeholder _ source => source.length

/-- Length of pieces as they are written. -/
def written (ps : List Piece) : Nat :=
  (ps.map Piece.length).sum

@[simp] theorem written_nil : written [] = 0 := rfl

@[simp] theorem written_cons (piece : Piece) (ps : List Piece) :
    written (piece :: ps) = piece.length + written ps := by
  rw [written, List.map_cons, List.sum_cons, written]

theorem written_cons_char (c : Char) (ps : List Piece) : written (cons c ps) = written ps + 1 := by
  unfold cons
  split
  · simp only [written_cons, Piece.length, List.length_cons]
    omega
  · simp only [written_cons, Piece.length, List.length_cons, List.length_nil]
    omega

/-- Pieces are no longer than the template they are read from. -/
theorem written_pieces_le (cs : List Char) : written (pieces cs) ≤ cs.length := by
  fun_induction pieces cs with
  | case1 => simp
  | case2 cs ih =>
    simp only [written_cons, Piece.length, List.length_cons, List.length_nil]
    omega
  | case3 cs hne p rest hread ih =>
    have hrest := Placeholder.length_read hread
    simp only [written_cons, Piece.length, List.length_cons, List.length_take]
    omega
  | case4 cs hne hread ih =>
    rw [written_cons_char, List.length_cons]
    omega
  | case5 c cs hdouble hpercent ih =>
    rw [written_cons_char, List.length_cons]
    omega

end Template

namespace Message
open Placeholder (longest)

/-- Allowance for values: each in its longest conversion, a blank, and a width and a precision. -/
def allowance (vs : List Json) : Nat :=
  (vs.map fun v => longest v + 1 + 2 * 1024).sum

theorem allowance_cons (v : Json) (vs : List Json) :
    allowance (v :: vs) = longest v + 1 + 2 * 1024 + allowance vs := by
  rw [allowance, List.map_cons, List.sum_cons, allowance]

theorem length_leftover_le (l : Look) (vs : List Json) :
    (leftover .plain l vs).length ≤ allowance vs := by
  induction vs with
  | nil => exact Nat.zero_le _
  | cons v vs ih =>
    have hdisplay := Placeholder.length_display_le v
    rw [leftover] at ih
    rw [leftover, List.flatMap_cons, paint, List.length_append, List.length_cons, allowance_cons]
    omega

/-- Every piece shows at most its source or one value, and takes that value from the others. -/
theorem length_renderPieces_le (ps : List Template.Piece) (vs : List Json) (l : Look) :
    (renderPieces .plain ps vs l).length ≤ Template.written ps + allowance vs := by
  induction ps generalizing vs l with
  | nil =>
    rw [renderPieces, Template.written_nil, Nat.zero_add]
    exact length_leftover_le l vs
  | cons piece ps ih =>
    rw [Template.written_cons]
    cases piece with
    | text t =>
      have hrest := ih vs l
      rw [renderPieces, paint, List.length_append, Template.Piece.length]
      omega
    | placeholder p source =>
      rw [Template.Piece.length]
      cases vs with
      | nil =>
        have hrest := ih [] l
        rw [renderPieces, paint, List.length_append]
        omega
      | cons v vs =>
        rw [renderPieces, allowance_cons]
        split
        · have hrest := ih vs (.ofCss v.display)
          omega
        · have hrest := ih vs l
          have hvalue := p.length_format_le v
          rw [paint, List.length_append]
          omega

end Message

namespace Directive

theorem length_pad_le (d : Directive) (cs : List Char) : (d.pad cs).length ≤ max 1024 cs.length := by
  have hcut : (d.cut cs).length ≤ cs.length := by
    unfold cut
    split
    · exact List.length_take_le' _ _
    · exact Nat.le_refl _
  have hwidth := Placeholder.honored_le d.width
  rw [pad_eq]
  dsimp only
  split
  all_goals
    rw [List.length_append, List.length_replicate]
    omega

/-- Text that is substituted is no longer than the field or the greatest width. -/
theorem exists_value_eq_str {d : Directive} (htime : d.isTime = false) (hkind : d.kind = .string)
    (timePattern : List Char) (r : Record) :
    ∃ s : String, d.value timePattern r = .str s ∧
      s.length ≤ max 1024 (((r.field? d.key).map fun v => v.display.length).getD 0) := by
  cases hkept : (r.field? d.key).filter Json.isTruthy with
  | none =>
    exact ⟨"", value_of_lacks htime (Record.lacks_iff.mpr hkept) timePattern, Nat.zero_le _⟩
  | some v =>
    obtain ⟨hfield, htruthy⟩ := Option.filter_eq_some_iff.mp hkept
    refine ⟨String.ofList (d.pad v.display), ?_, ?_⟩
    · rw [value_of_truthy htime hfield htruthy, if_pos hkind]
    · rw [String.length_ofList, hfield]
      exact d.length_pad_le v.display

end Directive

namespace Message
open Placeholder (longest)

/-- A message shows no more characters than its template has and, for each value, the longest text
that the value has in any conversion, a blank, and twice the greatest count. Text that a directive
substitutes is no longer than its field or the greatest count, whatever counts it has. -/
theorem length_toPlain_le :
    (∀ (template : List Char) (vs : List Json),
      (Message.mk template vs).toPlain.length ≤
        template.length + (vs.map fun v => longest v + 1 + 2 * 1024).sum) ∧
    (∀ v : Json, (∀ c : Char, (Placeholder.format ⟨none, none, c⟩ v).length ≤ longest v) ∧
      ∃ c : Char, (Placeholder.format ⟨none, none, c⟩ v).length = longest v) ∧
    ∀ (d : Directive) (timePattern : List Char) (r : Record), d.isTime = false →
      d.kind = .string → ∃ s : String, d.value timePattern r = .str s ∧
        s.length ≤ max 1024 (((r.field? d.key).map fun v => v.display.length).getD 0) := by
  refine ⟨fun template vs => ?_, fun v => ⟨fun c => ?_, ?_⟩, fun d timePattern r htime hkind => ?_⟩
  · have hpieces := Template.written_pieces_le template
    have hrendered := length_renderPieces_le (Template.pieces template) vs .plain
    rw [allowance] at hrendered
    rw [toPlain, render]
    exact Nat.le_trans hrendered (Nat.add_le_add_right hpieces _)
  · exact Placeholder.length_format_le_longest c v
  · exact Placeholder.exists_length_eq_longest v
  · exact Directive.exists_value_eq_str htime hkind timePattern r

/-- Counts far beyond 64 bits ask for nothing, in a template and in a directive. -/
theorem length_toPlain_le_oversized :
    let d : Directive := ⟨"name", some '-', some (2 ^ 64 - 1), some (2 ^ 64 - 1), .string⟩
    let r : Record := ⟨.epoch, .info, "db", "", none, []⟩
    d.isTime = false ∧ d.kind = .string ∧
      (∃ s : String, d.value [] r = .str s ∧ s.length ≤ 1024) ∧
      (Message.mk "%99999999999999999999d%1024.1024f".toList [.num (.int 7), .str "x"]).toPlain.length ≤
        33 + (longest (.num (.int 7)) + longest (.str "x") + 4098) := by
  intro d r
  obtain ⟨hmessage, -, hvalue⟩ := length_toPlain_le
  obtain ⟨s, hs, hle⟩ := hvalue d [] r rfl rfl
  refine ⟨rfl, rfl, ⟨s, hs, Nat.le_trans hle (by decide +kernel)⟩, ?_⟩
  have hlength := hmessage "%99999999999999999999d%1024.1024f".toList [.num (.int 7), .str "x"]
  have hsum : ([.num (.int 7), .str "x"].map fun v => longest v + 1 + 2 * 1024).sum =
      longest (.num (.int 7)) + longest (.str "x") + 4098 := by
    simp only [List.map_cons, List.map_nil, List.sum_cons, List.sum_nil]
    generalize longest (.num (.int 7)) = a, longest (.str "x") = b
    omega
  have htemplate : "%99999999999999999999d%1024.1024f".toList.length = 33 := by decide +kernel
  rw [htemplate, hsum] at hlength
  exact hlength

end Message

end Logline
