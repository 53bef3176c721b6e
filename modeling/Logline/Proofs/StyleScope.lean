import Logline.Proofs.Display
import Logline.Proofs.Line
/-!
The scope of styles. On a terminal every field of a styled line stands in the look of its own style,
and everything else in the terminal's own look.
-/
namespace Logline

namespace StyledFormat

/-- Cells that a segment is to show, and the stylist after it. The style of a field is the one that
the stylist has for its key and the text substituted for it. -/
def segmentCells (timePattern : List Char) (r : Record) (s : Stylist) :
    Segment → List Cell × Stylist
  | .text t => (Look.plain.cells t, s)
  | .directive d =>
    if d.isKnown then
      let (style, s) := s.style? d.key (String.ofList (d.value timePattern r).display)
      ((Part.look style).cells (d.text timePattern r), s)
    else ([], s)

/-- Cells that segments are to show in order, and the stylist after them. -/
def segmentsCells (timePattern : List Char) (r : Record) (s : Stylist) :
    List Segment → List Cell × Stylist
  | [] => ([], s)
  | seg :: segs =>
    let (front, s) := segmentCells timePattern r s seg
    let (rest, s) := segmentsCells timePattern r s segs
    (front ++ rest, s)

theorem cells_segmentParts (timePattern : List Char) (r : Record) (s : Stylist) (seg : Segment) :
    ((segmentParts timePattern r s seg).1.flatMap Part.cells,
        (segmentParts timePattern r s seg).2) =
      segmentCells timePattern r s seg := by
  cases seg with
  | text t => simp [segmentParts, segmentCells, Part.cells]
  | directive d =>
    rw [segmentParts, segmentCells, Directive.isKnown_eq, Directive.text_eq]
    cases d.placeholder? with
    | none => rfl
    | some p => simp [Part.cells]

theorem cells_parts (timePattern : List Char) (r : Record) (s : Stylist) (segs : List Segment) :
    ((parts timePattern r s segs).1.flatMap Part.cells, (parts timePattern r s segs).2) =
      segmentsCells timePattern r s segs := by
  induction segs generalizing s with
  | nil => rfl
  | cons seg segs ih =>
    rw [parts, segmentsCells, ← cells_segmentParts]
    dsimp only
    rw [← ih, List.flatMap_append]

theorem sound_parts {segs : List Segment} (h : ∀ seg ∈ segs, seg.PercentFree)
    (timePattern : List Char) (r : Record) (s : Stylist) :
    ∀ q ∈ (parts timePattern r s segs).1, q.Sound := by
  have hunstyled : ∀ q ∈ (parts timePattern r s segs).1.map Part.unstyled, q.Sound := by
    intro q hq
    rw [LineFormat.map_unstyled_parts, List.mem_flatMap] at hq
    obtain ⟨seg, hseg, hq⟩ := hq
    exact LineFormat.sound_segmentParts (h seg hseg) timePattern r q hq
  intro q hq
  have hq := hunstyled q.unstyled (List.mem_map_of_mem hq)
  cases q with
  | text t => exact hq
  | field p v style => exact hq

/-- Cells that a line is to show; its error has no style. -/
def lineCells (f : StyledFormat) (r : Record) : List Cell :=
  (segmentsCells f.timePattern r f.stylist (Layout.segments f.layout)).1 ++
    Look.plain.cells ((r.error.map Json.compact).getD [])

/-- The styles of a line do not change its text. -/
theorem map_fst_lineCells (f : StyledFormat) (r : Record) :
    (f.lineCells r).map Prod.fst = Layout.line f.layout f.timePattern r := by
  have hunstyled : (fun q : Part => q.cells.map Prod.fst) =
      fun q => q.unstyled.cells.map Prod.fst := by
    funext q
    cases q with
    | text t => rfl
    | field p v style => simp [Part.cells, Part.unstyled]
  rw [lineCells, List.map_append, ← cells_parts, Look.map_fst_cells, Layout.line,
    ← LineFormat.map_fst_cells_segmentsParts, ← LineFormat.map_unstyled_parts, List.flatMap_map,
    List.map_flatMap, List.map_flatMap, hunstyled]

/-- A line shows its cells, whatever styles its fields have. -/
theorem shows_message (f : StyledFormat) (r : Record) (h : Layout.PercentFree f.layout) :
    (f.message r).1.Shows (f.lineCells r) := by
  have hsound : ∀ q ∈ (parts f.timePattern r f.stylist (Layout.segments f.layout)).1 ++
      errorParts r.error, q.Sound := by
    intro q hq
    rcases List.mem_append.mp hq with hq | hq
    · exact sound_parts h _ r _ q hq
    · exact LineFormat.sound_errorParts r.error q hq
  have hshows := Part.shows_messages hsound
  rw [List.flatMap_append, LineFormat.cells_errorParts] at hshows
  rw [lineCells, ← cells_parts, message_eq]
  exact hshows

/-- On a terminal every field of a line stands in the look of its own style, everything else in the
terminal's own look, and so does whatever the terminal shows next. -/
theorem run_toAnsi_message (f : StyledFormat) (r : Record) (h : Layout.PercentFree f.layout)
    (hesc : escapeChar ∉ Layout.line f.layout f.timePattern r) :
    Terminal.start.run (f.message r).1.toAnsi = (f.lineCells r, .start) := by
  have hcells := (shows_message f r h).cells_eq
  have hplain : (f.message r).1.toPlain = Layout.line f.layout f.timePattern r := by
    rw [← Message.map_fst_cells, hcells, map_fst_lineCells]
  rw [← hplain] at hesc
  rw [← hcells]
  exact Message.run_renderPieces _ _ _ hesc

/-- The level is red, padding included; values that look like placeholders are text. -/
theorem run_toAnsi_message_level :
    Layout.PercentFree "%()%(levelname)-6s: %(message)".toList ∧
      Terminal.start.run ((make "%()%(levelname)-6s: %(message)".toList []
          (.ofSheet (.seeded 0) (StyleSheet.empty.withRule "levelname" "*" [("color", "red")])
            .inline)).message
            ⟨.epoch, .info, "db", "%c%s", some (.str "%o"), []⟩).1.toAnsi =
        (Look.plain.cells "%()".toList ++
          ({ Look.plain with foreground := some .red } : Look).cells "INFO  ".toList ++
          Look.plain.cells ": %c%s\"%o\"".toList, .start) :=
  ⟨by decide +kernel,
    (run_toAnsi_message _ _ (by decide +kernel) (by decide +kernel)).trans (by decide +kernel)⟩

end StyledFormat

end Logline
