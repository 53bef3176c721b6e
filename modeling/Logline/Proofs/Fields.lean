import Logline.Proofs.Line
/-!
Lines in fields. A field is taken together with the text in front of it, since only the two together
say how the template is scanned there. If that text is inert the field shows its value, styled or
not, and then no style has an effect on the plain text.
-/
namespace Logline

namespace Template

/-- Text that holds no placeholder and leaves a percent sign behind it alone. -/
def Inert (t : List Char) : Prop :=
  endsOpen t = false ∧ holes (items t) = 0

instance : DecidablePred Inert := fun t =>
  inferInstanceAs (Decidable (endsOpen t = false ∧ holes (items t) = 0))

/-- Characters among items. -/
def literal (is : List Item) : List Char :=
  is.flatMap fun
    | .char c => [c]
    | .placeholder .. => []

theorem chars_literal {is : List Item} (h : holes is = 0) : chars (literal is) = is := by
  induction is with
  | nil => rfl
  | cons i is ih =>
    cases i with
    | char c => exact congrArg (Item.char c :: ·) (ih h)
    | placeholder p source =>
      rw [holes_placeholder] at h
      contradiction

theorem Inert.items_append {t : List Char} (h : Inert t) (rest : List Char) :
    items (t ++ '%' :: rest) = chars (literal (items t)) ++ items ('%' :: rest) := by
  rw [items_append_percent, h.1, chars_literal h.2]
  rfl

end Template

namespace Message
open Template

/-- An inert text in front of a placeholder shows itself, doubled percent signs single. -/
theorem Shows.inert_append {t : List Char} (ht : Inert t) {m : Message} {cs : List Cell}
    (hm : m.Shows cs) {ds : List Char} (hpercent : m.template = '%' :: ds) :
    ((⟨t, []⟩ : Message) ++ m).Shows (Look.plain.cells (literal (items t)) ++ cs) := by
  have hitems (rest : Message) : items (t ++ (m ++ rest).template) =
      chars (literal (items t)) ++ items (m ++ rest).template := by
    rw [template_append, hpercent, List.cons_append, ht.items_append]
  constructor
  · intro rest
    rw [append_assoc, cells, template_append, hitems, cellsOf_chars_append, List.append_assoc,
      ← hm.cells_append]
    rfl
  · intro rest
    rw [append_assoc, placeholders, template_append, hitems, holes_append, holes_chars,
      Nat.zero_add]
    exact hm.placeholders_append rest

theorem Shows.toPlain_append {m : Message} {cs : List Cell} (h : m.Shows cs) (rest : Message) :
    (m ++ rest).toPlain = cs.map Prod.fst ++ rest.toPlain := by
  rw [← map_fst_cells, h.cells_append, List.map_append, map_fst_cells]

end Message

/-- Value for a placeholder with the text in front of it and the style that is found for it. -/
structure Field where
  lead : List Char
  placeholder : Placeholder
  value : Json
  style : Option String

namespace Field
open Template

def part (f : Field) : Part :=
  .field f.placeholder f.value f.style

def message (f : Field) : Message :=
  (⟨f.lead, []⟩ : Message) ++ f.part.message

def unstyled (f : Field) : Field :=
  { f with style := none }

/-- Message of fields in order. -/
def messages (fs : List Field) : Message :=
  ⟨fs.flatMap (·.message.template), fs.flatMap (·.message.values)⟩

@[simp] theorem messages_nil : messages [] = ⟨[], []⟩ := rfl

@[simp] theorem messages_cons (f : Field) (fs : List Field) :
    messages (f :: fs) = f.message ++ messages fs := rfl

theorem part_template (f : Field) : ∃ ds, f.part.message.template = '%' :: ds := by
  obtain ⟨lead, p, v, style⟩ := f
  cases style with
  | none => exact ⟨_, p.source_eq⟩
  | some css => exact ⟨_, rfl⟩

/-- A field behind an inert text shows that text and its value. -/
theorem shows_message (f : Field) (hlead : Inert f.lead) (hpart : f.part.Sound) :
    f.message.Shows (Look.plain.cells (literal (items f.lead)) ++ f.part.cells) := by
  obtain ⟨ds, hds⟩ := part_template f
  exact Message.Shows.inert_append hlead hpart.shows hds

theorem shows_messages {fs : List Field} (hlead : ∀ f ∈ fs, Inert f.lead)
    (hpart : ∀ f ∈ fs, f.part.Sound) :
    (messages fs).Shows
      (fs.flatMap fun f => Look.plain.cells (literal (items f.lead)) ++ f.part.cells) := by
  induction fs with
  | nil => exact Message.Shows.empty
  | cons f fs ih =>
    rw [messages_cons, List.flatMap_cons]
    exact (f.shows_message (hlead f (by simp)) (hpart f (by simp))).append
      (ih (fun g hg => hlead g (by simp [hg])) (fun g hg => hpart g (by simp [hg])))

end Field

namespace Part
open Template

/-- Fields of parts, and the text behind the last one. -/
def fields : List Part → List Field × List Char
  | [] => ([], [])
  | .text t :: qs =>
    match fields qs with
    | ([], tail) => ([], t ++ tail)
    | (f :: fs, tail) => ({ f with lead := t ++ f.lead } :: fs, tail)
  | .field p v style :: qs => (⟨[], p, v, style⟩ :: (fields qs).1, (fields qs).2)

theorem messages_eq_fields (qs : List Part) :
    messages qs = Field.messages (fields qs).1 ++ (⟨(fields qs).2, []⟩ : Message) := by
  induction qs with
  | nil => rfl
  | cons q qs ih =>
    rw [messages_cons, ih]
    cases q with
    | field p v style =>
      rw [fields, Field.messages_cons, Message.append_assoc]
      rfl
    | text t =>
      rw [fields]
      obtain ⟨fs, tail⟩ := fields qs
      cases fs with
      | nil => rfl
      | cons f fs =>
        have hlead : ({ f with lead := t ++ f.lead } : Field).message = (text t).message ++ f.message :=
          Message.append_assoc ⟨t, []⟩ ⟨f.lead, []⟩ f.part.message
        simp only [Field.messages_cons, hlead, Message.append_assoc]

theorem fields_unstyled (qs : List Part) :
    fields (qs.map unstyled) = ((fields qs).1.map Field.unstyled, (fields qs).2) := by
  induction qs with
  | nil => rfl
  | cons q qs ih =>
    rw [List.map_cons]
    cases q with
    | field p v style => rw [unstyled, fields, ih, fields]; rfl
    | text t =>
      rw [unstyled, fields, ih, fields]
      obtain ⟨fs, tail⟩ := fields qs
      cases fs with
      | nil => rfl
      | cons f fs => rfl

/-- The fields of parts are among the parts. -/
theorem part_mem_of_mem_fields {qs : List Part} : ∀ f ∈ (fields qs).1, f.part ∈ qs := by
  induction qs with
  | nil => intro f hf; cases hf
  | cons q qs ih =>
    cases q with
    | field p v style =>
      intro f hf
      rcases List.mem_cons.mp hf with rfl | hf
      · exact List.mem_cons_self
      · exact List.mem_cons_of_mem _ (ih f hf)
    | text t =>
      rw [fields]
      generalize fields qs = found at ih ⊢
      obtain ⟨fs, tail⟩ := found
      cases fs with
      | nil => intro f hf; cases hf
      | cons g fs =>
        intro f hf
        rcases List.mem_cons.mp hf with rfl | hf
        · exact List.mem_cons_of_mem _ (ih g List.mem_cons_self)
        · exact List.mem_cons_of_mem _ (ih f (List.mem_cons_of_mem _ hf))

end Part

namespace Field
open Template

/-- Styles do not change what fields behind inert texts show, whatever follows the last one. -/
theorem toPlain_messages_append {fs : List Field} (hlead : ∀ f ∈ fs, Inert f.lead)
    (hpart : ∀ f ∈ fs, f.part.Sound) (rest : Message) :
    (messages fs ++ rest).toPlain = (messages (fs.map unstyled) ++ rest).toPlain := by
  have hunstyled : (messages (fs.map unstyled)).Shows _ := shows_messages
    (fun _ hf => by
      obtain ⟨g, hg, rfl⟩ := List.mem_map.mp hf
      exact hlead g hg)
    (fun _ hf => by
      obtain ⟨g, hg, rfl⟩ := List.mem_map.mp hf
      exact hpart g hg)
  rw [(shows_messages hlead hpart).toPlain_append, hunstyled.toPlain_append, List.flatMap_map,
    List.map_flatMap, List.map_flatMap]
  simp only [List.map_append, Look.map_fst_cells, part, Part.cells, unstyled]

end Field

namespace Layout
open Template

/-- Texts in front of the directives that show something, each from the one before on. A directive
of unknown type leaves nothing, so the texts around it are one. -/
def leads : List Segment → List (List Char)
  | [] => []
  | .text t :: segs =>
    match leads segs with
    | [] => []
    | lead :: rest => (t ++ lead) :: rest
  | .directive d :: segs => if d.isKnown then [] :: leads segs else leads segs

/-- No text in front of such a directive holds a placeholder or ends with an open percent sign. -/
def Aligned (layout : List Char) : Prop :=
  ∀ lead ∈ leads (segments layout), Inert lead

instance (layout : List Char) : Decidable (Aligned layout) :=
  inferInstanceAs (Decidable (∀ lead ∈ leads (segments layout), Inert lead))

end Layout

namespace LineFormat

theorem leads_fields (timePattern : List Char) (r : Record) (segs : List Segment) :
    (Part.fields (segs.flatMap (segmentParts timePattern r))).1.map Field.lead =
      Layout.leads segs := by
  induction segs with
  | nil => rfl
  | cons seg segs ih =>
    rw [List.flatMap_cons]
    cases seg with
    | text t =>
      rw [segmentParts, List.singleton_append, Part.fields, Layout.leads, ← ih]
      obtain ⟨fs, tail⟩ := Part.fields (segs.flatMap (segmentParts timePattern r))
      cases fs with
      | nil => rfl
      | cons f fs => rfl
    | directive d =>
      rw [segmentParts, Layout.leads, Directive.isKnown_eq, ← ih]
      cases d.placeholder? with
      | none => rfl
      | some p => rfl

end LineFormat

namespace StyledFormat

theorem leads_fields (timePattern : List Char) (r : Record) (s : Stylist) (segs : List Segment) :
    (Part.fields (parts timePattern r s segs).1).1.map Field.lead = Layout.leads segs := by
  rw [← LineFormat.leads_fields timePattern r, ← LineFormat.map_unstyled_parts timePattern r s,
    Part.fields_unstyled, List.map_map]
  rfl

/-- The field parts of a line are sound, whatever the text around them. -/
theorem sound_fields (timePattern : List Char) (r : Record) (s : Stylist) (segs : List Segment) :
    ∀ f ∈ (Part.fields (parts timePattern r s segs).1).1, f.part.Sound := by
  intro f hf
  obtain ⟨d, colors, hd, hp, hv, hstyle⟩ := exists_directive (Part.part_mem_of_mem_fields f hf)
  exact Directive.placeholder?_conversion hp

theorem inert_fields {segs : List Segment} (h : ∀ lead ∈ Layout.leads segs, Template.Inert lead)
    (timePattern : List Char) (r : Record) (s : Stylist) :
    ∀ f ∈ (Part.fields (parts timePattern r s segs).1).1, Template.Inert f.lead := by
  intro f hf
  apply h
  rw [← leads_fields timePattern r s segs]
  exact List.mem_map_of_mem hf

/-- The plain text of an aligned line is that of the line without any style. -/
theorem toPlain_aligned (f : StyledFormat) (r : Record) (h : Layout.Aligned f.layout) :
    (f.message r).1.toPlain =
      (Part.messages ((Layout.segments f.layout).flatMap (LineFormat.segmentParts f.timePattern r) ++
        errorParts r.error)).toPlain := by
  rw [message_eq, ← LineFormat.map_unstyled_parts f.timePattern r f.stylist]
  dsimp only
  rw [Part.messages_append, Part.messages_append, Part.messages_eq_fields,
    Part.messages_eq_fields (List.map _ _), Part.fields_unstyled, Message.append_assoc,
    Message.append_assoc]
  exact Field.toPlain_messages_append (inert_fields h _ _ _) (sound_fields _ _ _ _) _

end StyledFormat

end Logline
