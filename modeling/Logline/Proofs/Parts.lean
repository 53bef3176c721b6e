import Logline.Formatter
import Logline.Proofs.Cells
/-!
Lines in parts. Both kinds of lines are put together from the same parts, texts and fields; a field
of a styled line may have a style. A part is sound if its placeholders are the only ones that its
template holds, and then it shows the same whatever follows it.
-/
namespace Logline

/-- A text, or a value for a placeholder with the style that is found for it. -/
inductive Part where
  | text (t : List Char)
  | field (p : Placeholder) (v : Json) (style : Option String)
  deriving DecidableEq

namespace Part

/-- Message of a part; a style surrounds the placeholder, and the empty one ends it. -/
def message : Part → Message
  | .text t => ⟨t, []⟩
  | .field p v none => ⟨p.source, [v]⟩
  | .field p v (some css) => ⟨'%' :: 'c' :: (p.source ++ ['%', 'c']), [.str css, v, .str ""]⟩

def unstyled : Part → Part
  | .text t => .text t
  | .field p v _ => .field p v none

/-- Look that a style asks for. -/
def look (style : Option String) : Look :=
  style.elim .plain fun css => .ofCss css.toList

/-- Cells that a part is to show: text as it is, a value as its placeholder formats it. -/
def cells : Part → List Cell
  | .text t => Look.plain.cells t
  | .field p v style => (look style).cells (p.format v)

/-- Text without percent signs or an opener, or a placeholder that shows its value. -/
def Sound : Part → Prop
  | .text t => t = ['%', '('] ∨ '%' ∉ t
  | .field p _ _ => p.conversion ∈ Placeholder.conversions ∧ p.conversion ≠ 'c'

/-- Message of parts in order. -/
def messages (qs : List Part) : Message :=
  ⟨qs.flatMap (·.message.template), qs.flatMap (·.message.values)⟩

end Part

namespace Message

@[simp] theorem template_append (a b : Message) : (a ++ b).template = a.template ++ b.template := rfl

@[simp] theorem values_append (a b : Message) : (a ++ b).values = a.values ++ b.values := rfl

theorem append_assoc (a b c : Message) : a ++ b ++ c = a ++ (b ++ c) := by
  change Message.mk _ _ = Message.mk _ _
  simp

@[simp] theorem append_empty (a : Message) : a ++ (⟨[], []⟩ : Message) = a := by
  change Message.mk _ _ = a
  simp

@[simp] theorem empty_append (a : Message) : (⟨[], []⟩ : Message) ++ a = a := rfl

end Message

namespace Part

@[simp] theorem messages_nil : messages [] = ⟨[], []⟩ := rfl

@[simp] theorem messages_cons (q : Part) (qs : List Part) :
    messages (q :: qs) = q.message ++ messages qs := rfl

theorem messages_append (qs rs : List Part) : messages (qs ++ rs) = messages qs ++ messages rs := by
  simp only [messages, List.flatMap_append]
  rfl

end Part

/-- Error of a record as the part that ends its line. -/
def errorParts (error : Option Json) : List Part :=
  error.toList.map fun e => .field ⟨none, none, 'o'⟩ e none

theorem Message.appendError_eq (m : Message) (error : Option Json) :
    m.appendError error = m ++ Part.messages (errorParts error) := by
  cases error with
  | none => exact (append_empty m).symm
  | some e => rfl

namespace Stylist

@[simp] theorem style?_sheet (s : Stylist) (field value : String) :
    (s.style? field value).2.sheet = s.sheet := by
  unfold style?
  split <;> rfl

@[simp] theorem style?_support (s : Stylist) (field value : String) :
    (s.style? field value).2.support = s.support := by
  unfold style?
  split <;> rfl

theorem style?_unsupported {s : Stylist} (h : s.support = .unsupported) (field value : String) :
    (s.style? field value).1 = none := by
  unfold style?
  rw [h]

end Stylist

namespace StyledFormat

/-- Parts of a segment, and the stylist after it. -/
def segmentParts (timePattern : List Char) (r : Record) (s : Stylist) :
    Segment → List Part × Stylist
  | .text t => ([.text t], s)
  | .directive d =>
    match d.placeholder? with
    | none => ([], s)
    | some p =>
      let v := d.value timePattern r
      let (style, s) := s.style? d.key (String.ofList v.display)
      ([.field p v style], s)

/-- Parts of segments in order, and the stylist after them. -/
def parts (timePattern : List Char) (r : Record) (s : Stylist) :
    List Segment → List Part × Stylist
  | [] => ([], s)
  | seg :: segs =>
    let (front, s) := segmentParts timePattern r s seg
    let (rest, s) := parts timePattern r s segs
    (front ++ rest, s)

@[simp] theorem segmentParts_sheet (timePattern : List Char) (r : Record) (s : Stylist)
    (seg : Segment) : (segmentParts timePattern r s seg).2.sheet = s.sheet := by
  cases seg with
  | text t => rfl
  | directive d => cases h : d.placeholder? <;> simp [segmentParts, h]

@[simp] theorem segmentParts_support (timePattern : List Char) (r : Record) (s : Stylist)
    (seg : Segment) : (segmentParts timePattern r s seg).2.support = s.support := by
  cases seg with
  | text t => rfl
  | directive d => cases h : d.placeholder? <;> simp [segmentParts, h]

/-- Every field of a line comes from a directive, and its style from the stylist's sheet, whatever
colors have been given by then. -/
theorem exists_directive {timePattern : List Char} {r : Record} {s : Stylist} {segs : List Segment}
    {p : Placeholder} {v : Json} {style : Option String}
    (h : .field p v style ∈ (parts timePattern r s segs).1) :
    ∃ d colors, .directive d ∈ segs ∧ d.placeholder? = some p ∧ v = d.value timePattern r ∧
      style = (Stylist.style? ⟨s.sheet, s.support, colors⟩ d.key (String.ofList v.display)).1 := by
  induction segs generalizing s with
  | nil => cases h
  | cons seg segs ih =>
    simp only [parts, List.mem_append] at h
    rcases h with h | h
    · cases seg with
      | text t => simp [segmentParts] at h
      | directive d =>
        cases hp : d.placeholder? with
        | none => simp [segmentParts, hp] at h
        | some q =>
          simp only [segmentParts, hp, List.mem_singleton, Part.field.injEq] at h
          obtain ⟨rfl, rfl, rfl⟩ := h
          exact ⟨d, s.colors, by simp, hp, rfl, rfl⟩
    · obtain ⟨d, colors, hd, hp, hv, hstyle⟩ := ih h
      rw [segmentParts_sheet, segmentParts_support] at hstyle
      exact ⟨d, colors, by simp [hd], hp, hv, hstyle⟩

theorem segmentMessage_eq (timePattern : List Char) (r : Record) (s : Stylist) (seg : Segment) :
    segmentMessage timePattern r s seg =
      (Part.messages (segmentParts timePattern r s seg).1,
        (segmentParts timePattern r s seg).2) := by
  cases seg with
  | text t => simp [segmentMessage, segmentParts, Part.message]
  | directive d =>
    rw [segmentMessage, segmentParts]
    cases d.placeholder? with
    | none => rfl
    | some p =>
      dsimp only
      generalize s.style? d.key (String.ofList (d.value timePattern r).display) = found
      obtain ⟨style, s'⟩ := found
      cases style with
      | none => simp [Part.message]
      | some css => simp [Part.message]

theorem segmentsMessage_eq (timePattern : List Char) (r : Record) (s : Stylist)
    (segs : List Segment) :
    segmentsMessage timePattern r s segs =
      (Part.messages (parts timePattern r s segs).1, (parts timePattern r s segs).2) := by
  induction segs generalizing s with
  | nil => rfl
  | cons seg segs ih =>
    simp only [segmentsMessage, parts, segmentMessage_eq, ih, Part.messages_append]

/-- A styled line is the message of its parts, the error last. -/
theorem message_eq (f : StyledFormat) (r : Record) :
    f.message r =
      let (qs, stylist) := parts f.timePattern r f.stylist (Layout.segments f.layout)
      (Part.messages (qs ++ errorParts r.error), { f with stylist }) := by
  simp only [message, body, segmentsMessage_eq, Message.appendError_eq, Part.messages_append]

end StyledFormat

namespace LineFormat

/-- Parts of a segment of a line; its fields have no style. -/
def segmentParts (timePattern : List Char) (r : Record) : Segment → List Part
  | .text t => [.text t]
  | .directive d => d.placeholder?.toList.map fun p => .field p (d.value timePattern r) none

theorem template_segmentParts (timePattern : List Char) (r : Record) (seg : Segment) :
    (Part.messages (segmentParts timePattern r seg)).template = Layout.templateOf seg := by
  cases seg with
  | text t => simp [segmentParts, Part.message, Layout.templateOf]
  | directive d =>
    rw [segmentParts, Layout.templateOf]
    cases d.placeholder? with
    | none => rfl
    | some p => simp [Part.message]

theorem values_segmentParts (timePattern : List Char) (r : Record) (segs : List Segment) :
    (Part.messages (segs.flatMap (segmentParts timePattern r))).values =
      ((segs.filterMap fun
          | .directive d => some d
          | .text _ => none).filter (·.placeholder?.isSome)).map
        fun d => d.value timePattern r := by
  induction segs with
  | nil => rfl
  | cons seg segs ih =>
    rw [List.flatMap_cons, Part.messages_append, Message.values_append, ih]
    cases seg with
    | text t => rfl
    | directive d => cases hp : d.placeholder? <;> simp [segmentParts, hp, Part.message]

/-- A line is the message of its parts, the error last. -/
theorem message_eq (layout : List Char) (timePattern : List Char) (r : Record) :
    message ⟨Layout.compile layout, timePattern⟩ r =
      Part.messages ((Layout.segments layout).flatMap (segmentParts timePattern r) ++
        errorParts r.error) := by
  have htemplate : (Part.messages ((Layout.segments layout).flatMap
      (segmentParts timePattern r))).template = (Layout.compile layout).template := by
    rw [Part.messages, List.flatMap_assoc]
    exact congrArg (List.flatMap · _) (funext (template_segmentParts timePattern r))
  have hvalues := values_segmentParts timePattern r (Layout.segments layout)
  rw [message, Message.appendError_eq, Part.messages_append, body]
  congr 1
  change Message.mk _ _ = Message.mk _ _
  rw [Message.mk.injEq]
  exact ⟨htemplate.symm, hvalues.symm⟩

/-- The fields of a styled line are those of a line, whatever styles they have. -/
theorem map_unstyled_parts (timePattern : List Char) (r : Record) (s : Stylist)
    (segs : List Segment) :
    (StyledFormat.parts timePattern r s segs).1.map Part.unstyled =
      segs.flatMap (segmentParts timePattern r) := by
  induction segs generalizing s with
  | nil => rfl
  | cons seg segs ih =>
    simp only [StyledFormat.parts, List.map_append, ih, List.flatMap_cons]
    congr 1
    cases seg with
    | text t => rfl
    | directive d =>
      rw [StyledFormat.segmentParts, segmentParts]
      cases d.placeholder? with
      | none => rfl
      | some p => rfl

/-- Without support for styles a styled line has the parts of a line. -/
theorem parts_unsupported {s : Stylist} (h : s.support = .unsupported) (timePattern : List Char)
    (r : Record) (segs : List Segment) :
    (StyledFormat.parts timePattern r s segs).1 = segs.flatMap (segmentParts timePattern r) := by
  induction segs generalizing s with
  | nil => rfl
  | cons seg segs ih =>
    simp only [StyledFormat.parts, List.flatMap_cons]
    rw [ih ((StyledFormat.segmentParts_support ..).trans h)]
    congr 1
    cases seg with
    | text t => rfl
    | directive d =>
      cases hp : d.placeholder? with
      | none => simp [StyledFormat.segmentParts, segmentParts, hp]
      | some p =>
        simp [StyledFormat.segmentParts, segmentParts, hp, Stylist.style?_unsupported h]

end LineFormat

end Logline
