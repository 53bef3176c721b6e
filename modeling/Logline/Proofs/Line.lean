import Logline.Proofs.Shows
/-!
Lines without percent signs in their text. A template is built in one piece and scanned again, yet
what it shows is put together segment by segment: no value is read as part of the template, every
placeholder has its own value, and no value is left over.
-/
namespace Logline

/-- Text that a directive stands for in a line: a time whatever the type, nothing for an unknown type,
and otherwise the field in the notation of the type, with width and precision for numbers only. -/
def Directive.text (d : Directive) (timePattern : List Char) (r : Record) : List Char :=
  let v := d.value timePattern r
  if d.isTime then Placeholder.format ⟨none, none, 's'⟩ v
  else
    match d.kind with
    | .unknown _ => []
    | .int | .float => Placeholder.format ⟨d.width, d.precision, d.kind.letter⟩ v
    | .string | .object | .inspect => Placeholder.format ⟨none, none, d.kind.letter⟩ v

namespace Directive

/-- A time, or a field of a type that shows something. -/
def isKnown (d : Directive) : Bool :=
  d.isTime || match d.kind with
    | .unknown _ => false
    | .string | .int | .float | .object | .inspect => true

theorem isKnown_eq (d : Directive) : d.isKnown = d.placeholder?.isSome := by
  unfold isKnown placeholder?
  cases d.isTime with
  | true => rfl
  | false => cases hk : d.kind <;> rfl

theorem text_eq (d : Directive) (timePattern : List Char) (r : Record) :
    d.text timePattern r =
      (d.placeholder?.map fun p => p.format (d.value timePattern r)).getD [] := by
  unfold text placeholder?
  cases d.isTime with
  | true => rfl
  | false => cases hk : d.kind <;> rfl

theorem placeholder?_conversion {d : Directive} {p : Placeholder} (h : d.placeholder? = some p) :
    p.conversion ∈ Placeholder.conversions ∧ p.conversion ≠ 'c' := by
  unfold placeholder? at h
  split at h
  · cases h
    decide
  · cases hk : d.kind <;> rw [hk] at h <;> cases h <;> simp [Placeholder.conversions]

end Directive

/-- Directive of a segment, if it shows something. -/
def Segment.known? : Segment → Option Directive
  | .text _ => none
  | .directive d => if d.isKnown then some d else none

/-- Text of a segment in a line. -/
def Segment.line (timePattern : List Char) (r : Record) : Segment → List Char
  | .text t => t
  | .directive d => d.text timePattern r

/-- Text without a percent sign, except for an opener that begins no directive. -/
def Segment.PercentFree : Segment → Prop
  | .text t => t = ['%', '('] ∨ '%' ∉ t
  | .directive _ => True

instance : DecidablePred Segment.PercentFree
  | .text t => inferInstanceAs (Decidable (t = ['%', '('] ∨ '%' ∉ t))
  | .directive _ => .isTrue trivial

namespace Layout

theorem directives_filter_isKnown (layout : List Char) :
    (directives layout).filter Directive.isKnown =
      (segments layout).filterMap Segment.known? := by
  rw [directives, List.filter_filterMap]
  refine congrArg (List.filterMap · (segments layout)) (funext fun seg => ?_)
  cases seg with
  | text t => rfl
  | directive d => rfl

/-- The directives that are compiled are those that show something. -/
theorem directives_compile (layout : List Char) :
    (compile layout).directives = (segments layout).filterMap Segment.known? := by
  rw [← directives_filter_isKnown, funext Directive.isKnown_eq, compile]

/-- Text of a line: its segments in order, the error last as JSON. -/
def line (layout timePattern : List Char) (r : Record) : List Char :=
  (segments layout).flatMap (Segment.line timePattern r) ++ (r.error.map Json.compact).getD []

def PercentFree (layout : List Char) : Prop :=
  ∀ seg ∈ segments layout, seg.PercentFree

instance (layout : List Char) : Decidable (PercentFree layout) :=
  inferInstanceAs (Decidable (∀ seg ∈ segments layout, seg.PercentFree))

end Layout

namespace LineFormat

theorem percentFree_default : Layout.PercentFree defaultLayout := by
  decide +kernel

theorem sound_segmentParts {seg : Segment} (h : seg.PercentFree) (timePattern : List Char)
    (r : Record) : ∀ q ∈ segmentParts timePattern r seg, q.Sound := by
  cases seg with
  | text t =>
    intro q hq
    rw [segmentParts, List.mem_singleton] at hq
    subst hq
    exact h
  | directive d =>
    intro q hq
    rw [segmentParts, List.mem_map] at hq
    obtain ⟨p, hp, rfl⟩ := hq
    exact Directive.placeholder?_conversion (Option.mem_toList.mp hp)

theorem map_fst_cells_segmentParts (timePattern : List Char) (r : Record) (seg : Segment) :
    ((segmentParts timePattern r seg).flatMap Part.cells).map Prod.fst =
      seg.line timePattern r := by
  cases seg with
  | text t => simp [segmentParts, Part.cells, Segment.line]
  | directive d =>
    rw [segmentParts, Segment.line, Directive.text_eq]
    cases d.placeholder? with
    | none => rfl
    | some p => simp [Part.cells]

theorem map_fst_cells_segmentsParts (timePattern : List Char) (r : Record) (segs : List Segment) :
    ((segs.flatMap (segmentParts timePattern r)).flatMap Part.cells).map Prod.fst =
      segs.flatMap (Segment.line timePattern r) := by
  rw [List.flatMap_assoc, List.map_flatMap]
  simp only [map_fst_cells_segmentParts]

theorem sound_errorParts (error : Option Json) : ∀ q ∈ errorParts error, q.Sound := by
  cases error with
  | none => intro q hq; cases hq
  | some e =>
    intro q hq
    rw [errorParts, Option.toList_some, List.map_singleton, List.mem_singleton] at hq
    subst hq
    exact ⟨by decide, by decide⟩

theorem cells_errorParts (error : Option Json) :
    (errorParts error).flatMap Part.cells =
      Look.plain.cells ((error.map Json.compact).getD []) := by
  cases error with
  | none => rfl
  | some e =>
    simp [errorParts, Part.cells, Part.look]

theorem percentFree_orElseText {layout : List Char} (h : Layout.PercentFree layout)
    {default : List Char} (hd : Layout.PercentFree default) :
    Layout.PercentFree (orElseText layout default) := by
  rw [orElseText]
  split
  · exact hd
  · exact h

/-- The parts of a line without percent signs in its text are sound. -/
theorem sound_parts {layout : List Char} (h : Layout.PercentFree layout) (timePattern : List Char)
    (r : Record) :
    ∀ q ∈ (Layout.segments layout).flatMap (segmentParts timePattern r) ++ errorParts r.error,
      q.Sound := by
  intro q hq
  rw [List.mem_append, List.mem_flatMap] at hq
  rcases hq with ⟨seg, hseg, hq⟩ | hq
  · exact sound_segmentParts (h seg hseg) timePattern r q hq
  · exact sound_errorParts r.error q hq

/-- The characters of the parts are the text of the line. -/
theorem map_fst_cells_parts (layout timePattern : List Char) (r : Record) :
    (((Layout.segments layout).flatMap (segmentParts timePattern r) ++
      errorParts r.error).flatMap Part.cells).map Prod.fst = Layout.line layout timePattern r := by
  rw [List.flatMap_append, List.map_append, cells_errorParts, Look.map_fst_cells,
    map_fst_cells_segmentsParts, Layout.line]

/-- A line shows its parts. -/
theorem shows_message {layout : List Char} (h : Layout.PercentFree layout) (timePattern : List Char)
    (r : Record) :
    ((make layout timePattern).message r).Shows
      (((Layout.segments (orElseText layout defaultLayout)).flatMap (segmentParts
        (Time.strftime.checked (orElseText timePattern defaultTimePattern)) r) ++
          errorParts r.error).flatMap Part.cells) := by
  rw [make, message_eq]
  exact Part.shows_messages (sound_parts (percentFree_orElseText h percentFree_default) _ r)

theorem toPlain_eq_line {layout : List Char} (h : Layout.PercentFree layout)
    (timePattern : List Char) (r : Record) :
    ((make layout timePattern).message r).toPlain =
      Layout.line (orElseText layout defaultLayout)
        (Time.strftime.checked (orElseText timePattern defaultTimePattern)) r := by
  rw [← Message.map_fst_cells, (shows_message h timePattern r).cells_eq, map_fst_cells_parts]

/-- A line shows the text of its segments and its error. Every placeholder of its template has one
value. -/
theorem toPlain_message (layout timePattern : List Char) (r : Record)
    (h : Layout.PercentFree layout) :
    ((make layout timePattern).message r).toPlain =
        Layout.line (orElseText layout defaultLayout)
          (Time.strftime.checked (orElseText timePattern defaultTimePattern)) r ∧
      ((make layout timePattern).message r).placeholders =
        ((make layout timePattern).message r).values.length :=
  ⟨toPlain_eq_line h timePattern r, (shows_message h timePattern r).placeholders_eq⟩

/-- Signs in the values stay what they are, also behind an opener that begins no directive. -/
theorem toPlain_message_percent_values :
    Layout.PercentFree "%()%(message)s|%(n)5.3d|%(n)x.".toList ∧
      ((make "%()%(message)s|%(n)5.3d|%(n)x.".toList []).message
        ⟨.epoch, .info, "db", "%c%s", some (.str "%o"), [("n", .num (.int 7))]⟩).toPlain =
          "%()%c%s|  007|.\"%o\"".toList :=
  ⟨by decide +kernel,
    (toPlain_message _ _ _ (by decide +kernel)).1.trans (by decide +kernel)⟩

end LineFormat

end Logline
