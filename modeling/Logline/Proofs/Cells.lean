import Logline.Message
import Logline.Proofs.Scan
/-!
What a message shows, character by character, each in the look that was asked for last. Without
the looks the cells are the plain text.
-/
namespace Logline

/-- A character as it stands on a terminal. -/
abbrev Cell := Char × Look

namespace Look

/-- The look on a terminal: the color `reset` is the terminal's own. -/
def shown (l : Look) : Look :=
  { l with
    foreground := l.foreground.filter (· ≠ .reset)
    background := l.background.filter (· ≠ .reset) }

@[simp] theorem shown_plain : plain.shown = plain := rfl

/-- Cells of a text in one look. -/
def cells (l : Look) (cs : List Char) : List Cell :=
  cs.map fun c => (c, l.shown)

@[simp] theorem cells_nil (l : Look) : l.cells [] = [] := rfl

@[simp] theorem cells_cons (l : Look) (c : Char) (cs : List Char) :
    l.cells (c :: cs) = (c, l.shown) :: l.cells cs := rfl

@[simp] theorem cells_append (l : Look) (a b : List Char) :
    l.cells (a ++ b) = l.cells a ++ l.cells b :=
  List.map_append

@[simp] theorem map_fst_cells (l : Look) (cs : List Char) : (l.cells cs).map Prod.fst = cs := by
  simp [cells, Function.comp_def]

end Look

namespace Message
open Template

/-- Cells of values that no placeholder consumed: each text in the look `l` behind a blank in the
terminal's own look. -/
def leftoverCells (l : Look) (vs : List Json) : List Cell :=
  vs.flatMap fun v => (' ', .plain) :: l.cells v.display

/-- Cells of items that begin in the look `l`. A value consumed by the conversion `c` shows nothing,
and what follows has the look that its CSS text describes. -/
def cellsOf (l : Look) : List Item → List Json → List Cell
  | [], vs => leftoverCells l vs
  | .char c :: is, vs => (c, l.shown) :: cellsOf l is vs
  | .placeholder _ source :: is, [] => l.cells source ++ cellsOf l is []
  | .placeholder p _ :: is, v :: vs =>
    if p.conversion = 'c' then cellsOf (.ofCss v.display) is vs
    else l.cells (p.format v) ++ cellsOf l is vs

def cells (m : Message) : List Cell :=
  cellsOf .plain (items m.template) m.values

theorem cellsOf_chars_append (l : Look) (t : List Char) (is : List Item) (vs : List Json) :
    cellsOf l (chars t ++ is) vs = l.cells t ++ cellsOf l is vs := by
  induction t with
  | nil => rfl
  | cons c t ih => simp [cellsOf, ih]

theorem map_fst_leftoverCells (l : Look) (vs : List Json) :
    (leftoverCells l vs).map Prod.fst = leftover .plain l vs := by
  simp [leftoverCells, leftover, List.map_flatMap, paint]

theorem map_fst_cellsOf (ps : List Piece) (vs : List Json) (l : Look) :
    (cellsOf l (ps.flatMap Piece.items) vs).map Prod.fst = renderPieces .plain ps vs l := by
  induction ps generalizing vs l with
  | nil => exact map_fst_leftoverCells l vs
  | cons piece ps ih =>
    cases piece with
    | text t =>
      rw [List.flatMap_cons, Piece.items, cellsOf_chars_append, List.map_append,
        Look.map_fst_cells, ih, renderPieces, paint]
    | placeholder p source =>
      rw [List.flatMap_cons, Piece.items, List.singleton_append]
      cases vs with
      | nil => rw [cellsOf, List.map_append, Look.map_fst_cells, ih, renderPieces, paint]
      | cons v vs =>
        rw [cellsOf, renderPieces]
        split
        · exact ih vs _
        · rw [List.map_append, Look.map_fst_cells, ih, paint]

/-- The characters of the cells are the plain text. -/
theorem map_fst_cells (m : Message) : m.cells.map Prod.fst = m.toPlain :=
  map_fst_cellsOf (pieces m.template) m.values .plain

end Message

end Logline
