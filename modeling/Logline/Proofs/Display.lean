import Logline.Proofs.Terminal
/-!
Messages on a terminal. The text with escape sequences displays the plain text, each character in
the look asked for last, and leaves the terminal as it was at the start.
-/
namespace Logline.Message
open Template Terminal

theorem run_leftover (l : Look) (vs : List Json) (h : escapeChar ∉ leftover .plain l vs) :
    start.run (leftover .ansi l vs) = (leftoverCells l vs, start) := by
  induction vs with
  | nil => rfl
  | cons v vs ih =>
    have hv : escapeChar ∉ v.display ∧ escapeChar ∉ leftover .plain l vs := by
      simp only [leftover, List.flatMap_cons, paint, List.cons_append, List.mem_cons,
        List.mem_append, not_or] at h
      exact h.2
    have hblank := run_text_append .plain [' '] (l.paint v.display ++ leftover .ansi l vs) (by decide)
    rw [← start, List.singleton_append, run_paint_append l _ _ hv.1, ih hv.2] at hblank
    exact hblank

/-- The terminal follows the renderer: before each piece it has its own look, whatever look the
renderer has reached. -/
theorem run_renderPieces (ps : List Piece) (vs : List Json) (l : Look)
    (h : escapeChar ∉ renderPieces .plain ps vs l) :
    start.run (renderPieces .ansi ps vs l) =
      (cellsOf l (ps.flatMap Piece.items) vs, start) := by
  induction ps generalizing vs l with
  | nil => exact run_leftover l vs h
  | cons piece ps ih =>
    cases piece with
    | text t =>
      rw [renderPieces, List.mem_append, not_or] at h
      rw [renderPieces, paint, run_paint_append l t _ h.1, ih vs l h.2, List.flatMap_cons,
        Piece.items, cellsOf_chars_append]
    | placeholder p source =>
      rw [List.flatMap_cons, Piece.items, List.singleton_append]
      cases vs with
      | nil =>
        rw [renderPieces, List.mem_append, not_or] at h
        rw [renderPieces, paint, run_paint_append l source _ h.1, ih [] l h.2, cellsOf]
      | cons v vs =>
        rw [renderPieces] at h ⊢
        rw [cellsOf]
        split
        · rename_i hc
          rw [if_pos hc] at h
          exact ih vs _ h
        · rename_i hc
          rw [if_neg hc, List.mem_append, not_or] at h
          rw [paint, run_paint_append l (p.format v) _ h.1, ih vs l h.2]

/-- Where no escape character is shown, the terminal displays exactly the cells of the message. -/
theorem run_toAnsi (m : Message) (h : escapeChar ∉ m.toPlain) :
    start.run m.toAnsi = (m.cells, start) ∧ m.cells.map Prod.fst = m.toPlain :=
  ⟨run_renderPieces _ _ _ h, map_fst_cells m⟩

/-- A value in bold red; the placeholders behind it have no values left. -/
theorem run_toAnsi_bold :
    escapeChar ∉ (Message.mk "%c%s%c %q %s%d".toList
        [.str "color:red;font-weight:bold;", .str "x", .str ""]).toPlain ∧
      start.run (Message.mk "%c%s%c %q %s%d".toList
          [.str "color:red;font-weight:bold;", .str "x", .str ""]).toAnsi =
        (({ Look.plain with foreground := some .red, bold := true } : Look).cells ['x'] ++
          Look.plain.cells " %q %s%d".toList, start) :=
  ⟨by decide +kernel, (run_toAnsi _ (by decide +kernel)).1.trans (by decide +kernel)⟩

end Logline.Message
