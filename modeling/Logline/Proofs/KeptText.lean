import Logline.Proofs.Verbatim
/-!
Scanning keeps text. The pieces of a template one behind the other are the template with each pair of
percent signs as one sign. So that is what the template shows without values, and a text whose percent
signs are doubled shows itself, with every value behind it.
-/
namespace Logline

namespace Text

/-- Text with every occurrence of a part that is not empty replaced, taken from the left and without
overlap. -/
def replaceAll (part replacement : List Char) (cs : List Char) : List Char :=
  match cs with
  | [] => []
  | c :: cs =>
    if part.isPrefixOf (c :: cs) then
      replacement ++ replaceAll part replacement (cs.drop (part.length - 1))
    else c :: replaceAll part replacement cs
termination_by cs.length
decreasing_by
  · simp only [List.length_drop, List.length_cons]
    omega
  · simp

@[simp] theorem replaceAll_nil (part replacement : List Char) :
    replaceAll part replacement [] = [] := by
  rw [replaceAll]

theorem replaceAll_part (c : Char) (part replacement cs : List Char) :
    replaceAll (c :: part) replacement (c :: (part ++ cs)) =
      replacement ++ replaceAll (c :: part) replacement cs := by
  have hprefix : (c :: part).isPrefixOf (c :: (part ++ cs)) = true :=
    List.isPrefixOf_iff_prefix.mpr ⟨cs, rfl⟩
  rw [replaceAll, if_pos hprefix, List.length_cons, Nat.add_sub_cancel, List.drop_left]

theorem replaceAll_cons {part : List Char} {c : Char} {cs : List Char}
    (h : part.isPrefixOf (c :: cs) = false) (replacement : List Char) :
    replaceAll part replacement (c :: cs) = c :: replaceAll part replacement cs := by
  rw [replaceAll, h, if_neg Bool.false_ne_true]

/-- Text without the first character of the part is kept. -/
theorem replaceAll_append {c : Char} {front : List Char} (h : c ∉ front)
    (part replacement rest : List Char) :
    replaceAll (c :: part) replacement (front ++ rest) =
      front ++ replaceAll (c :: part) replacement rest := by
  induction front with
  | nil => rfl
  | cons d front ih =>
    rw [List.mem_cons, not_or] at h
    have hprefix : (c :: part).isPrefixOf (d :: (front ++ rest)) = false := by
      rw [List.isPrefixOf, beq_false_of_ne h.1, Bool.false_and]
    rw [List.cons_append, replaceAll_cons hprefix, ih h.2, List.cons_append]

/-- A single character is replaced wherever it stands. -/
theorem replaceAll_singleton (c : Char) (replacement cs : List Char) :
    replaceAll [c] replacement cs = cs.flatMap fun d => if d = c then replacement else [d] := by
  induction cs with
  | nil => simp
  | cons d cs ih =>
    rw [List.flatMap_cons, ← ih]
    by_cases hd : d = c
    · subst hd
      rw [if_pos rfl]
      exact replaceAll_part d [] replacement cs
    · have hnotMem : c ∉ [d] := by simpa using Ne.symm hd
      rw [if_neg hd]
      exact replaceAll_append hnotMem [] replacement cs

end Text

namespace Template
open Text (replaceAll)

/-- Text that a piece was read as. -/
def Piece.source : Piece → List Char
  | .text t => t
  | .placeholder _ source => source

theorem flatMap_source_cons (c : Char) (ps : List Piece) :
    (cons c ps).flatMap Piece.source = c :: ps.flatMap Piece.source := by
  cases ps with
  | nil => rfl
  | cons p ps => cases p <;> rfl

theorem no_pair_in_front {cs : List Char} (h : ∀ ds, cs ≠ '%' :: ds) :
    ['%', '%'].isPrefixOf ('%' :: cs) = false := by
  cases cs with
  | nil => rfl
  | cons c cs =>
    have hc : '%' ≠ c := fun hc => h cs (by rw [hc])
    rw [List.isPrefixOf, List.isPrefixOf, beq_false_of_ne hc, Bool.false_and, Bool.and_false]

/-- Nothing of a template is lost in scanning but one sign of each pair. -/
theorem flatMap_source_pieces (t : List Char) :
    (pieces t).flatMap Piece.source = replaceAll ['%', '%'] ['%'] t := by
  induction t using pieces.induct with
  | case1 => rw [pieces, List.flatMap_nil, Text.replaceAll_nil]
  | case2 cs ih =>
    rw [pieces, List.flatMap_cons, ih]
    exact (Text.replaceAll_part '%' ['%'] ['%'] cs).symm
  | case3 cs hcs p rest hread ih =>
    -- what a placeholder is read from holds no percent sign, so no pair either
    obtain ⟨used, rfl, -, hpercent⟩ := Placeholder.exists_of_read hread
    rw [pieces_placeholder _ _ p hread, List.flatMap_cons, ih,
      Text.replaceAll_cons (no_pair_in_front hcs), Text.replaceAll_append hpercent]
    simp [Piece.source]
  | case4 cs hcs hread ih =>
    rw [pieces_percent cs hcs hread, flatMap_source_cons, ih,
      Text.replaceAll_cons (no_pair_in_front hcs)]
  | case5 c cs hcs hc ih =>
    have hnotMem : '%' ∉ [c] := by simpa using Ne.symm hc
    rw [pieces_char c cs hc, flatMap_source_cons, ih]
    exact (Text.replaceAll_append hnotMem ['%'] ['%'] cs).symm

/-- Without values every placeholder is shown as it was written. -/
theorem fill_source (ps : List Piece) :
    Message.fill (ps.flatMap Piece.items) [] = ps.flatMap Piece.source := by
  induction ps with
  | nil => rfl
  | cons piece ps ih =>
    rw [List.flatMap_cons, List.flatMap_cons, Message.fill_append, List.drop_nil, ih]
    cases piece with
    | text t => rw [Piece.items, Message.fill_chars, Piece.source]
    | placeholder p source => rw [Piece.items, Message.fill, Message.fill, List.append_nil, Piece.source]

/-- The doubled signs of a text show it again, and every value is left over. -/
theorem toPlain_ofText (cs : List Char) (vs : List Json) :
    (Message.mk (ofText cs) vs).toPlain = cs ++ vs.flatMap fun v => ' ' :: v.display := by
  rw [Message.toPlain_eq_fill, Message.placeholders, items_ofText, holes_chars, Message.fill_chars,
    List.drop_zero]
  rfl

/-- The pieces of a template are the template with each pair of percent signs as one, and so is what it
shows without values. A text with its percent signs doubled shows itself whatever the values are, which
follow it one by one. -/
theorem pieces_keep_text :
    (∀ t : List Char, (pieces t).flatMap Piece.source = replaceAll ['%', '%'] ['%'] t) ∧
    (∀ t : List Char, (Message.mk t []).toPlain = replaceAll ['%', '%'] ['%'] t) ∧
    ∀ (s : List Char) (vs : List Json), (Message.mk (replaceAll ['%'] ['%', '%'] s) vs).toPlain =
      s ++ vs.flatMap fun v => ' ' :: v.display := by
  refine ⟨flatMap_source_pieces, fun t => ?_, fun s vs => ?_⟩
  · rw [Message.toPlain_eq_fill, List.drop_nil, items, fill_source, flatMap_source_pieces]
    exact List.append_nil _
  · rw [Text.replaceAll_singleton]
    exact toPlain_ofText s vs

example : (pieces "%%%s%5.%% 50%%%".toList).flatMap Piece.source = "%%s%5.% 50%%".toList := by
  decide +kernel

end Template

end Logline
