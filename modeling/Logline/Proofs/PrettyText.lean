import Logline.Json.Printer
import Logline.Proofs.Decimal
import Logline.Proofs.Lines
/-!
Line breaks of indented JSON text. Strings and keys are escaped and numbers are spelled with few
characters, so the only control characters in the text are the line breaks put between tokens. Its
lines are therefore the parts between these line breaks, and joined they are the text again.
-/
namespace Logline

namespace Text

/-- Text without control characters. -/
def Printable (cs : List Char) : Prop :=
  ∀ c ∈ cs, 32 ≤ c.toNat

instance (cs : List Char) : Decidable (Printable cs) :=
  List.decidableBAll (fun c : Char => 32 ≤ c.toNat) cs

theorem Printable.append {a b : List Char} (ha : Printable a) (hb : Printable b) :
    Printable (a ++ b) :=
  List.forall_mem_append.mpr ⟨ha, hb⟩

theorem Printable.cons {c : Char} {cs : List Char} (hc : 32 ≤ c.toNat) (hcs : Printable cs) :
    Printable (c :: cs) :=
  List.forall_mem_cons.mpr ⟨hc, hcs⟩

theorem Printable.replicate {c : Char} (hc : 32 ≤ c.toNat) (n : Nat) :
    Printable (List.replicate n c) := by
  intro d hd
  rw [(List.mem_replicate.mp hd).2]
  exact hc

theorem le_toNat_of_isDigit {c : Char} (h : c.isDigit = true) : 32 ≤ c.toNat := by
  rw [Char.isDigit, Bool.and_eq_true, decide_eq_true_eq, decide_eq_true_eq] at h
  have hlow : '0'.toNat ≤ c.toNat := h.1
  exact Nat.le_trans (by decide) hlow

theorem printable_of_isDigit {cs : List Char} (h : ∀ c ∈ cs, c.isDigit = true) : Printable cs :=
  fun c hc => le_toNat_of_isDigit (h c hc)

/-- Text whose only control characters are line breaks. -/
def LinesPrintable (cs : List Char) : Prop :=
  ∀ c ∈ cs, c = '\n' ∨ 32 ≤ c.toNat

theorem Printable.lines {cs : List Char} (h : Printable cs) : LinesPrintable cs :=
  fun c hc => .inr (h c hc)

theorem LinesPrintable.append {a b : List Char} (ha : LinesPrintable a) (hb : LinesPrintable b) :
    LinesPrintable (a ++ b) :=
  List.forall_mem_append.mpr ⟨ha, hb⟩

/-- Printable lines, the last of which has something in it. -/
structure Block (cs : List Char) : Prop where
  lines : LinesPrintable cs
  last : ∃ front c, cs = front ++ [c] ∧ c ≠ '\n'

theorem Block.token (cs : List Char) (h : Printable cs) (hne : cs ≠ []) : Block cs := by
  refine ⟨h.lines, cs.dropLast, cs.getLast hne, (List.dropLast_concat_getLast hne).symm, ?_⟩
  have hlast := h _ (List.getLast_mem hne)
  intro hbreak
  rw [hbreak] at hlast
  exact absurd hlast (by decide)

theorem Block.behind {front cs : List Char} (hfront : LinesPrintable front) (h : Block cs) :
    Block (front ++ cs) := by
  obtain ⟨init, c, rfl, hc⟩ := h.last
  exact ⟨hfront.append h.lines, front ++ init, c, (List.append_assoc ..).symm, hc⟩

theorem Block.cons {c : Char} {cs : List Char} (hc : 32 ≤ c.toNat) (h : Block cs) :
    Block (c :: cs) := by
  have hfront : Printable [c] := .cons hc (by decide)
  exact h.behind hfront.lines

theorem mem_of_mem_splitAt {separator c : Char} {cs part : List Char}
    (h : part ∈ splitAt separator cs) (hc : c ∈ part) : c ∈ cs ∧ c ≠ separator := by
  induction cs generalizing part with
  | nil =>
    rw [splitAt, List.splitOnP_nil, List.mem_singleton] at h
    rw [h] at hc
    cases hc
  | cons d cs ih =>
    rw [splitAt, List.splitOnP_cons_eq_if_modifyHead, ← splitAt] at h
    by_cases hd : d = separator
    · rw [if_pos (beq_iff_eq.mpr hd)] at h
      rcases List.mem_cons.mp h with rfl | h
      · cases hc
      · exact ⟨List.mem_cons_of_mem _ (ih h hc).1, (ih h hc).2⟩
    · rw [if_neg (mt beq_iff_eq.mp hd)] at h
      cases hparts : splitAt separator cs with
      | nil => exact absurd hparts (List.splitOnP_ne_nil _ _)
      | cons first parts =>
        rw [hparts, List.modifyHead_cons] at h
        rw [hparts] at ih
        rcases List.mem_cons.mp h with rfl | h
        · rcases List.mem_cons.mp hc with rfl | hc
          · exact ⟨List.mem_cons_self, hd⟩
          · have hfirst := ih List.mem_cons_self hc
            exact ⟨List.mem_cons_of_mem _ hfirst.1, hfirst.2⟩
        · have hlater := ih (List.mem_cons_of_mem _ h) hc
          exact ⟨List.mem_cons_of_mem _ hlater.1, hlater.2⟩

/-- Behind the last separator stands what does not end with one. -/
theorem getLast?_splitAt_concat {separator c : Char} (front : List Char) (hc : c ≠ separator) :
    ∀ part ∈ (splitAt separator (front ++ [c])).getLast?, part ≠ [] := by
  induction front with
  | nil =>
    rw [List.nil_append, splitAt, List.splitOnP_cons_eq_if_modifyHead,
      if_neg (mt beq_iff_eq.mp hc), List.splitOnP_nil]
    simp
  | cons d front ih =>
    rw [List.cons_append, splitAt, List.splitOnP_cons_eq_if_modifyHead, ← splitAt]
    cases hparts : splitAt separator (front ++ [c]) with
    | nil => exact absurd hparts (List.splitOnP_ne_nil _ _)
    | cons first parts =>
      rw [hparts] at ih
      split
      · simpa using ih
      · cases parts with
        | nil => simp
        | cons second parts => simpa using ih

theorem Block.printable_of_mem {cs part : List Char} (h : Block cs) (hpart : part ∈ splitAt '\n' cs) :
    Printable part := by
  intro c hc
  obtain ⟨hmem, hbreak⟩ := mem_of_mem_splitAt hpart hc
  exact (h.lines c hmem).resolve_left hbreak

/-- Of the parts between line breaks none ends with a carriage return and the last is not empty, so
they are the lines. -/
theorem Block.lines_eq {cs : List Char} (h : Block cs) : Text.lines cs = splitAt '\n' cs := by
  have hreturn :
      (splitAt '\n' cs).dropLast.map (dropReturn '\r') = (splitAt '\n' cs).dropLast := by
    refine (List.map_congr_left fun part hpart => ?_).trans (List.map_id _)
    rw [dropReturn, if_neg]
    · rfl
    · intro hlast
      have hprintable := h.printable_of_mem (List.dropLast_subset _ hpart)
      exact absurd (hprintable _ (List.mem_of_getLast? hlast)) (by decide)
  obtain ⟨front, c, hcs, hc⟩ := h.last
  have hne : splitAt '\n' cs ≠ [] := List.splitOnP_ne_nil _ _
  have hlast := List.getLast?_eq_some_getLast hne
  have hnonempty : (splitAt '\n' cs).getLast hne ≠ [] := by
    subst hcs
    exact getLast?_splitAt_concat front hc _ hlast
  rw [lines_eq_splitAt, hreturn, hlast, Option.filter_some, if_pos (by simpa using hnonempty),
    Option.toList_some, List.dropLast_concat_getLast]

/-- The lines of a block are printable, and joined they are the block. -/
theorem Block.intercalate_lines {cs : List Char} (h : Block cs) :
    (∀ line ∈ Text.lines cs, Printable line) ∧ ['\n'].intercalate (Text.lines cs) = cs := by
  rw [h.lines_eq]
  exact ⟨fun line hline => h.printable_of_mem hline, List.intercalate_splitOn '\n'⟩

end Text

namespace Binary64

theorem isDigit_of_mem_ofScaled {c : Nat} {unit : Int} {d : Char}
    (h : d ∈ (Digits.ofScaled c unit).digits) : d.isDigit = true := by
  rw [Digits.ofScaled, List.mem_reverse] at h
  have h := (List.dropWhile_sublist _).mem h
  rw [List.mem_reverse] at h
  exact Decimal.isDigit_of_mem_digits h

theorem isDigit_of_mem_shortest {tie : Tie} {mantissa : Nat} {scale : Int} {d : Char}
    (h : d ∈ (shortest tie mantissa scale).digits) : d.isDigit = true := by
  rw [shortest] at h
  cases hfound : (List.range 17).findSome? fun i => nearby tie mantissa scale (i + 1) with
  | none =>
    rw [hfound, Option.getD_none, List.mem_singleton] at h
    rw [h]
    decide
  | some found =>
    rw [hfound, Option.getD_some] at h
    obtain ⟨i, -, hi⟩ := List.exists_of_findSome?_eq_some hfound
    obtain ⟨c, -, rfl⟩ := Option.map_eq_some_iff.mp hi
    exact isDigit_of_mem_ofScaled h

theorem isDigit_of_mem_positional {d : Digits} (h : ∀ c ∈ d.digits, c.isDigit = true) :
    (∀ c ∈ d.positional.1, c.isDigit = true) ∧ ∀ c ∈ d.positional.2, c.isDigit = true := by
  have hzeros (n : Nat) : ∀ c ∈ List.replicate n '0', c.isDigit = true := by
    intro c hc
    rw [(List.mem_replicate.mp hc).2]
    decide
  constructor
  · intro c hc
    rw [Digits.positional] at hc
    split at hc
    · rw [List.mem_singleton] at hc
      rw [hc]
      decide
    · rcases List.mem_append.mp (List.mem_of_mem_take hc) with hc | hc
      · exact h c hc
      · exact hzeros _ c hc
  · intro c hc
    rcases List.mem_append.mp hc with hc | hc
    · exact hzeros _ c hc
    · exact h c (List.mem_of_mem_drop hc)

end Binary64

namespace Number
open Text

theorem printable_signed (n : Int) : Printable (Decimal.signed n) := by
  have hdigits : Printable (Decimal.digits n.natAbs) :=
    printable_of_isDigit fun _ h => Decimal.isDigit_of_mem_digits h
  rw [Decimal.signed]
  split
  · exact .cons (by decide) hdigits
  · exact hdigits

theorem printable_floatText (s : Bool) (m : Nat) (q : Int) : Printable (floatText s m q) := by
  have hsign : Printable (if s then ['-'] else []) := by cases s <;> decide
  rw [floatText]
  generalize hd : (if m = 0 then (⟨[], 0⟩ : Binary64.Digits) else Binary64.shortest .even m q) = d
  have hdigits : ∀ c ∈ d.digits, c.isDigit = true := by
    intro c hc
    rw [← hd] at hc
    split at hc
    · cases hc
    · exact Binary64.isDigit_of_mem_shortest hc
  obtain ⟨hwhole, hfraction⟩ := Binary64.isDigit_of_mem_positional hdigits
  dsimp only
  split
  · refine (hsign.append (printable_of_isDigit hwhole)).append (.cons (by decide) ?_)
    split
    · decide
    · exact printable_of_isDigit hfraction
  · have hprintable := printable_of_isDigit hdigits
    refine (hsign.append ?mantissa).append (.cons (by decide) ?exponent)
    case mantissa =>
      split
      · rename_i first second rest heq
        rw [heq] at hprintable
        exact .cons (hprintable first (by simp))
          (.cons (by decide) fun c hc => hprintable c (List.mem_cons_of_mem _ hc))
      · exact hprintable
    case exponent =>
      split
      · exact .cons (by decide) (printable_signed _)
      · exact printable_signed _

theorem printable_text (n : Number) : Printable n.text := by
  unfold text
  split
  · exact printable_signed _
  · exact printable_floatText _ _ _
  · decide

theorem floatText_ne_nil (s : Bool) (m : Nat) (q : Int) : floatText s m q ≠ [] := by
  rw [floatText]
  generalize (if m = 0 then (⟨[], 0⟩ : Binary64.Digits) else Binary64.shortest .even m q) = d
  dsimp only
  split
  · exact List.append_ne_nil_of_right_ne_nil _ (List.cons_ne_nil _ _)
  · exact List.append_ne_nil_of_right_ne_nil _ (List.cons_ne_nil _ _)

theorem text_ne_nil (n : Number) : n.text ≠ [] := by
  unfold text
  split
  · rw [Decimal.signed]
    split
    · exact List.cons_ne_nil _ _
    · exact Decimal.digits_ne_nil _
  · exact floatText_ne_nil _ _ _
  · exact List.cons_ne_nil _ _

end Number

namespace Json
open Text

theorem le_toNat_hexDigit {n : Nat} (h : n < 16) : 32 ≤ (hexDigit n).toNat := by
  have hall : ∀ n < 16, 32 ≤ (hexDigit n).toNat := by decide
  exact hall n h

/-- Control characters are escaped, and no escape holds one. -/
theorem printable_escapeChar (c : Char) : Printable (escapeChar c) := by
  unfold escapeChar
  iterate 7
    split
    · decide
  split
  · rename_i hcontrol
    have hhigh := le_toNat_hexDigit (n := c.toNat / 16) (by omega)
    have hlow := le_toNat_hexDigit (n := c.toNat % 16) (by omega)
    have hmark : Printable ['\\', 'u', '0', '0'] := by decide
    exact hmark.append (.cons hhigh (.cons hlow (by decide)))
  · rename_i hcontrol
    exact .cons (Nat.le_of_not_lt hcontrol) (by decide)

theorem printable_quote (cs : List Char) : Printable (quote cs) := by
  refine .cons (by decide) (.append ?_ (by decide))
  intro c hc
  obtain ⟨d, -, hc⟩ := List.mem_flatMap.mp hc
  exact printable_escapeChar d c hc

theorem linesPrintable_newline (level : Nat) : LinesPrintable (newline level) := by
  intro c hc
  rcases List.mem_cons.mp hc with hc | hc
  · exact .inl hc
  · exact .inr (Printable.replicate (by decide) _ c hc)

theorem block_closing (level : Nat) {c : Char} (hc : 32 ≤ c.toNat) : Block (newline level ++ [c]) :=
  (Block.token [c] (.cons hc (by decide)) (List.cons_ne_nil _ _)).behind
    (linesPrintable_newline level)

/-- An item on its own line, in front of the rest of the container. -/
theorem block_item (level : Nat) {item rest : List Char} (hitem : LinesPrintable item)
    (hrest : Block rest) : Block (newline level ++ item ++ rest) :=
  hrest.behind ((linesPrintable_newline level).append hitem)

/-- A member on its own line, in front of the rest of the object. -/
theorem block_member (level : Nat) (key : List Char) {value rest : List Char}
    (hvalue : LinesPrintable value) (hrest : Block rest) :
    Block (newline level ++ quote key ++ ':' :: ' ' :: value ++ rest) := by
  have hseparator : Printable [':', ' '] := by decide
  have hmember := (printable_quote key).lines.append (hseparator.lines.append hvalue)
  rw [List.append_assoc (newline level)]
  exact block_item level hmember hrest

mutual

/-- Line breaks stand between tokens only, and a token ends the text. -/
theorem block_indented (level : Nat) : (v : Json) → Block (indented level v)
  | .null => .token ['n', 'u', 'l', 'l'] (by decide) (by decide)
  | .bool true => .token ['t', 'r', 'u', 'e'] (by decide) (by decide)
  | .bool false => .token ['f', 'a', 'l', 's', 'e'] (by decide) (by decide)
  | .num n => .token n.text n.printable_text n.text_ne_nil
  | .str s => .token (quote s.toList) (printable_quote _) (List.cons_ne_nil _ _)
  | .arr [] => .token ['[', ']'] (by decide) (by decide)
  | .arr (v :: vs) => (block_indentedItems level (v :: vs)).cons (by decide)
  | .obj [] => .token ['\x7b', '\x7d'] (by decide) (by decide)
  | .obj (m :: ms) => (block_indentedMembers level (m :: ms)).cons (by decide)

theorem block_indentedItems (level : Nat) : (vs : List Json) → Block (indentedItems level vs)
  | [] => block_closing level (by decide)
  | [v] => by
    have hv := block_indented (level + 1) v
    have h := block_item (level + 1) hv.lines (block_closing level (c := ']') (by decide))
    rwa [← List.append_assoc] at h
  | v :: w :: vs =>
    block_item (level + 1) (block_indented (level + 1) v).lines
      ((block_indentedItems level (w :: vs)).cons (by decide))

theorem block_indentedMembers (level : Nat) :
    (ms : List (String × Json)) → Block (indentedMembers level ms)
  | [] => block_closing level (by decide)
  | [(k, v)] => by
    have hv := block_indented (level + 1) v
    have h := block_member (level + 1) k.toList hv.lines (block_closing level (c := '\x7d') (by decide))
    rwa [← List.append_assoc] at h
  | (k, v) :: m :: ms =>
    block_member (level + 1) k.toList (block_indented (level + 1) v).lines
      ((block_indentedMembers level (m :: ms)).cons (by decide))

end

theorem block_pretty (v : Json) : Block v.pretty :=
  block_indented 0 v

end Json

end Logline
