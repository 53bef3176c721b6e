import Logline.Proofs.StyleInvisible
/-!
Styled lines against lines. A line is compiled once and a styled line is put together again for each
record, with a stylist that remembers. Yet both have the same parts, and the styles of a styled line
are what the stylist answers when it is asked about the compiled directives in order.
-/
namespace Logline

namespace Stylist

/-- Styles of fields with their values, asked for in order, and the stylist after them. -/
def styles (s : Stylist) : List (String × String) → List (Option String) × Stylist
  | [] => ([], s)
  | q :: qs =>
    let (style, s) := s.style? q.1 q.2
    let (rest, s) := styles s qs
    (style :: rest, s)

theorem styles_cons (s : Stylist) (q : String × String) (qs : List (String × String)) :
    s.styles (q :: qs) =
      ((s.style? q.1 q.2).1 :: ((s.style? q.1 q.2).2.styles qs).1,
        ((s.style? q.1 q.2).2.styles qs).2) := rfl

end Stylist

namespace Part

/-- Placeholder and value of a field. -/
def slot? : Part → Option (Option Placeholder × Json)
  | .text _ => none
  | .field p v _ => some (some p, v)

/-- Parts whose fields have the given styles in order. -/
def styled : List Part → List (Option String) → List Part
  | [], _ => []
  | .text t :: qs, styles => .text t :: styled qs styles
  | .field p v _ :: qs, styles => .field p v (styles.headD none) :: styled qs styles.tail

end Part

namespace Directive

/-- What the stylist is asked for a directive: its key and the text substituted for it. -/
def request (timePattern : List Char) (r : Record) (d : Directive) : String × String :=
  (d.key, String.ofList (d.value timePattern r).display)

end Directive

namespace LineFormat

/-- Parts of a line in front of its error. -/
def parts (layout timePattern : List Char) (r : Record) : List Part :=
  (Layout.segments layout).flatMap (segmentParts timePattern r)

/-- The fields of a line are its compiled directives in order, each with its value. -/
theorem slots_segmentParts (timePattern : List Char) (r : Record) (segs : List Segment) :
    (segs.flatMap (segmentParts timePattern r)).filterMap Part.slot? =
      (segs.filterMap Segment.known?).map fun d => (d.placeholder?, d.value timePattern r) := by
  induction segs with
  | nil => rfl
  | cons seg segs ih =>
    rw [List.flatMap_cons, List.filterMap_append, ih, List.filterMap_cons]
    cases seg with
    | text t => rfl
    | directive d =>
      cases hp : d.placeholder? with
      | none => simp [segmentParts, Segment.known?, Directive.isKnown_eq, hp]
      | some p => simp [segmentParts, Segment.known?, Directive.isKnown_eq, Part.slot?, hp]

end LineFormat

namespace StyledFormat

/-- The parts of a styled line are those of the line, with the styles that the stylist finds for the
compiled directives. -/
theorem parts_eq_styled (timePattern : List Char) (r : Record) (s : Stylist)
    (segs : List Segment) :
    let found := s.styles ((segs.filterMap Segment.known?).map (·.request timePattern r))
    parts timePattern r s segs =
      (Part.styled (segs.flatMap (LineFormat.segmentParts timePattern r)) found.1, found.2) := by
  induction segs generalizing s with
  | nil => rfl
  | cons seg segs ih =>
    rw [List.flatMap_cons, List.filterMap_cons, parts]
    -- the segment takes its style, if it has one, and leaves the other styles to the rest
    cases seg with
    | text t =>
      simp only [segmentParts, ih]
      rfl
    | directive d =>
      cases hp : d.placeholder? with
      | none =>
        simp [segmentParts, Segment.known?, Directive.isKnown_eq, LineFormat.segmentParts, hp, ih]
      | some p =>
        simp [segmentParts, Segment.known?, Directive.isKnown_eq, LineFormat.segmentParts, hp, ih,
          Stylist.styles_cons, Directive.request, Part.styled]

@[simp] theorem parts_support (timePattern : List Char) (r : Record) (s : Stylist)
    (segs : List Segment) : (parts timePattern r s segs).2.support = s.support := by
  induction segs generalizing s with
  | nil => rfl
  | cons seg segs ih => exact (ih _).trans (segmentParts_support timePattern r s seg)

theorem support_after (f : StyledFormat) (rs : List Record) :
    (f.after rs).stylist.support = f.stylist.support := by
  induction rs generalizing f with
  | nil => rfl
  | cons r rs ih =>
    have hmessage : (f.message r).2.stylist.support = f.stylist.support := by
      rw [message_eq]
      exact parts_support ..
    exact (ih (f.message r).2).trans hmessage

/-- Earlier records change nothing but the stylist. -/
theorem after_eq_mk (f : StyledFormat) (rs : List Record) :
    f.after rs = ⟨f.layout, f.timePattern, (f.after rs).stylist⟩ := by
  obtain ⟨hlayout, htime⟩ := after_eq f rs
  rw [← hlayout, ← htime]

/-- A styled line is put together from the parts of the line with the styles found for them. -/
theorem message_eq_parts_styled (f : StyledFormat) (r : Record) :
    let found := f.stylist.styles
      ((Layout.compile f.layout).directives.map (·.request f.timePattern r))
    f.message r =
      (Part.messages (Part.styled (LineFormat.parts f.layout f.timePattern r) found.1 ++
          errorParts r.error),
        { f with stylist := found.2 }) := by
  rw [message_eq, parts_eq_styled, Layout.directives_compile]
  rfl

theorem message_unsupported {f : StyledFormat} (h : f.stylist.support = .unsupported)
    (r : Record) :
    (f.message r).1 = LineFormat.message ⟨Layout.compile f.layout, f.timePattern⟩ r := by
  rw [message_eq, LineFormat.message_eq, ← LineFormat.parts_unsupported h]

/-- A styled line is the line with the styles found for its compiled directives: such a placeholder
stands between two marks, its value between the style and the empty text, and all else is the same,
the error included. Without support for styles the two are equal. -/
theorem message_eq_styled (layout timePattern : List Char) (stylist : Stylist)
    (history : List Record) (r : Record) (hlayout : layout ≠ []) (htime : timePattern ≠ []) :
    let line := LineFormat.make layout timePattern
    let styled := (make layout timePattern stylist).after history
    let qs := LineFormat.parts layout line.timePattern r
    let found := styled.stylist.styles (line.layout.directives.map (·.request line.timePattern r))
    line.message r = Part.messages (qs ++ errorParts r.error) ∧
      qs.filterMap Part.slot? =
        line.layout.directives.map (fun d => (d.placeholder?, d.value line.timePattern r)) ∧
      styled.message r =
        (Part.messages (Part.styled qs found.1 ++ errorParts r.error),
          { styled with stylist := found.2 }) ∧
      (stylist.support = .unsupported → (styled.message r).1 = line.message r) := by
  have hline : LineFormat.make layout timePattern =
      ⟨Layout.compile layout, Time.strftime.checked timePattern⟩ := by
    rw [LineFormat.make, orElseText, orElseText, if_neg hlayout, if_neg htime]
  have hmake : make layout timePattern stylist =
      ⟨layout, Time.strftime.checked timePattern, stylist⟩ := by
    rw [make, orElseText, orElseText, if_neg hlayout, if_neg htime]
  obtain ⟨later, hstyled, hsupport⟩ : ∃ later : Stylist,
      (make layout timePattern stylist).after history =
        ⟨layout, Time.strftime.checked timePattern, later⟩ ∧ later.support = stylist.support := by
    rw [hmake]
    exact ⟨_, after_eq_mk _ history, support_after _ history⟩
  rw [hline, hstyled]
  refine ⟨LineFormat.message_eq .., ?_, message_eq_parts_styled _ r, ?_⟩
  · rw [Layout.directives_compile]
    exact LineFormat.slots_segmentParts ..
  · intro hunsupported
    exact message_unsupported (hsupport.trans hunsupported) r

/-- The name has the second color, since the line before took the first one. -/
theorem message_eq_styled_name :
    "%()%(name)s|%(n)5.3d|%(n)x.".toList ≠ [] ∧ ['T'] ≠ [] ∧
      (((make "%()%(name)s|%(n)5.3d|%(n)x.".toList ['T'] (.ofSheet (.seeded 0)
          (StyleSheet.empty.withRule "name" "*" [("color", "%(color)")]) .inline)).after
            [⟨.epoch, .info, "web", "", none, []⟩]).message
              ⟨.epoch, .info, "db", "", some (.str "%o"), [("n", .num (.int 7))]⟩).1 =
        ⟨"%()%c%s%c|%5.3d|.%o".toList,
          [.str "color:#1da1f2;", .str "db", .str "", .num (.int 7), .str "%o"]⟩ :=
  ⟨by decide, by decide,
    (congrArg Prod.fst (message_eq_styled _ _ _ _ _ (by decide) (by decide)).2.2.1).trans
      (by decide +kernel)⟩

end StyledFormat

end Logline
