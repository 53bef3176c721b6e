import Logline.Proofs.Fill
/-!
Texts as templates. A text whose percent signs are doubled is a template without placeholders, and
that template shows the text again, whatever is asked for about looks.
-/
namespace Logline

namespace Template

/-- Template that shows a text: every percent sign doubled. -/
def ofText (cs : List Char) : List Char :=
  cs.flatMap fun c => if c = '%' then ['%', '%'] else [c]

/-- The doubled signs of a text are single again, whatever follows it. -/
theorem items_ofText_append (cs ds : List Char) :
    items (ofText cs ++ ds) = chars cs ++ items ds := by
  induction cs with
  | nil => rfl
  | cons c cs ih =>
    rw [ofText, List.flatMap_cons, List.append_assoc, chars_cons, List.cons_append, ← ih]
    split
    · rename_i hc
      subst hc
      exact items_percent_percent _
    · rename_i hc
      exact items_char c _ hc

theorem items_ofText (cs : List Char) : items (ofText cs) = chars cs := by
  have h := items_ofText_append cs []
  rwa [List.append_nil, items_nil, List.append_nil] at h

end Template

namespace Message
open Template

@[simp] theorem paint_plain (s : Styling) (cs : List Char) : paint s .plain cs = cs := by
  cases s with
  | ansi => simp [paint, Look.paint]
  | plain => rfl

/-- Without values nothing asks for a look, and every placeholder is shown as it was written. -/
theorem renderPieces_nil (s : Styling) (ps : List Piece) :
    renderPieces s ps [] .plain = fill (ps.flatMap Piece.items) [] := by
  induction ps with
  | nil => rfl
  | cons piece ps ih =>
    rw [List.flatMap_cons]
    cases piece with
    | text t =>
      rw [renderPieces, paint_plain, ih, Piece.items, fill_append, fill_chars, List.drop_nil]
    | placeholder p source =>
      rw [renderPieces, paint_plain, ih, Piece.items, List.singleton_append, fill]

theorem render_ofText (s : Styling) (cs : List Char) : render s ⟨ofText cs, []⟩ = cs := by
  rw [render, renderPieces_nil]
  change fill (items (ofText cs)) [] = cs
  rw [items_ofText, fill_chars]

end Message

end Logline
