import Logline.Beacon
import Logline.Console
import Logline.Proofs.Line
import Logline.Proofs.Percent
import Logline.Proofs.Verbatim
/-!
What a query holds. Between the texts of its layout stand words, so a record adds none of the
characters that give a query its structure. The message of a query shows the query itself, on a
console as well as in the address that a beacon sends.
-/
namespace Logline

namespace Layout

/-- Texts of segments in order. -/
def texts (segs : List Segment) : List Char :=
  segs.flatMap fun
    | .text t => t
    | .directive _ => []

/-- Texts of segments in order, with one word for each directive that shows something. -/
def weave : List Segment → List (List Char) → List Char
  | [], _ => []
  | .text t :: segs, words => t ++ weave segs words
  | .directive d :: segs, words =>
    if d.isKnown then words.headD [] ++ weave segs words.tail else weave segs words

/-- Words add nothing to the foreign characters of the texts around them. -/
theorem filter_weave (segs : List Segment) (words : List (List Char))
    (h : ∀ w ∈ words, Text.Percent.Word w) :
    (weave segs words).filter Text.Percent.isForeign =
      (texts segs).filter Text.Percent.isForeign := by
  induction segs generalizing words with
  | nil => rfl
  | cons seg segs ih =>
    rw [texts, List.flatMap_cons]
    cases seg with
    | text t =>
      rw [weave, List.filter_append, List.filter_append, ih words h]
      rfl
    | directive d =>
      rw [weave]
      split
      · have htail : ∀ w ∈ words.tail, Text.Percent.Word w :=
          fun w hw => h w (List.mem_of_mem_tail hw)
        have hhead : (words.headD []).filter Text.Percent.isForeign = [] := by
          cases words with
          | nil => rfl
          | cons w words => exact (h w (by simp)).filter_isForeign
        rw [List.filter_append, hhead, ih words.tail htail]
        rfl
      · exact ih words h

end Layout

namespace Directive

/-- A template of one placeholder shows its value as the placeholder formats it. -/
theorem toPlain_placeholder {d : Directive} {p : Placeholder} (h : d.placeholder? = some p)
    (v : Json) : (Message.mk p.source [v]).toPlain = p.format v := by
  have hsound : Part.Sound (.field p v none) := placeholder?_conversion h
  have hcells : (Message.mk p.source [v]).cells = (Part.look none).cells (p.format v) :=
    hsound.shows.cells_eq
  rw [← Message.map_fst_cells, hcells, Look.map_fst_cells]

end Directive

/-- A message without values has no error at its end, whatever its template ends with. -/
theorem Message.splitError?_of_values_nil (template : List Char) :
    (Message.mk template []).splitError? = none := by
  rw [splitError?]
  split
  · rfl
  · rfl

namespace QueryFormat

/-- Words that a record puts into a query, one for each directive that shows something. -/
def words (f : QueryFormat) (r : Record) : List (List Char) :=
  ((Layout.directives f.layout).filter Directive.isKnown).map fun d =>
    Text.Percent.encode (d.text f.timePattern r)

/-- Word of the error at the end of a query, empty without an error. -/
def errorWord (r : Record) : List Char :=
  Text.Percent.encode ((r.error.map Json.display).getD [])

theorem segmentText_directive (f : QueryFormat) (r : Record) (d : Directive) :
    f.segmentText r (.directive d) =
      if d.isKnown then Text.Percent.encode (d.text f.timePattern r) else [] := by
  rw [segmentText, Directive.isKnown_eq, Directive.text_eq]
  cases hp : d.placeholder? with
  | none => rfl
  | some p => exact congrArg Text.Percent.encode (Directive.toPlain_placeholder hp _)

theorem flatMap_segmentText (f : QueryFormat) (r : Record) (segs : List Segment) :
    segs.flatMap (f.segmentText r) =
      Layout.weave segs ((segs.filterMap Segment.known?).map fun d =>
        Text.Percent.encode (d.text f.timePattern r)) := by
  induction segs with
  | nil => rfl
  | cons seg segs ih =>
    rw [List.flatMap_cons, ih, List.filterMap_cons]
    cases seg with
    | text t => rfl
    | directive d =>
      rw [segmentText_directive, Segment.known?, Layout.weave]
      cases d.isKnown with
      | false => rfl
      | true => rfl

theorem word_words (f : QueryFormat) (r : Record) : ∀ w ∈ f.words r, Text.Percent.Word w := by
  intro w hw
  obtain ⟨d, -, rfl⟩ := List.mem_map.mp hw
  exact Text.Percent.word_encode _

theorem query_eq (f : QueryFormat) (r : Record) :
    f.query r = Layout.weave (Layout.segments f.layout) (f.words r) ++ errorWord r := by
  rw [query, flatMap_segmentText, words, Layout.directives_filter_isKnown, errorWord]

/-- A query is the texts of its layout with words between them, whatever the record, so its foreign
characters are those of the texts. Different texts have different words, and the word of two texts
in a row is their words in a row. -/
theorem query_eq_weave (f : QueryFormat) :
    let segs := Layout.segments f.layout
    (∀ r : Record,
      f.query r = Layout.weave segs (f.words r) ++ errorWord r ∧
        (f.words r).length = ((Layout.directives f.layout).filter Directive.isKnown).length ∧
        (∀ w ∈ errorWord r :: f.words r, Text.Percent.Word w) ∧
        (f.query r).filter Text.Percent.isForeign =
          (Layout.texts segs).filter Text.Percent.isForeign) ∧
      (∀ a b : List Char, Text.Percent.encode a = Text.Percent.encode b ↔ a = b) ∧
      ∀ a b : List Char,
        Text.Percent.encode (a ++ b) = Text.Percent.encode a ++ Text.Percent.encode b := by
  intro segs
  refine ⟨fun r => ⟨f.query_eq r, List.length_map _, ?_, ?_⟩, fun _ _ => Text.Percent.encode_inj,
    Text.Percent.encode_append⟩
  · intro w hw
    rcases List.mem_cons.mp hw with rfl | hw
    · exact Text.Percent.word_encode _
    · exact f.word_words r w hw
  · have herror : (errorWord r).filter Text.Percent.isForeign = [] :=
      (Text.Percent.word_encode _).filter_isForeign
    rw [query_eq, List.filter_append, Layout.filter_weave segs _ (f.word_words r), herror,
      List.append_nil]

/-- Signs of a query in a value are encoded. -/
example : (make "?lvl=%(levelname)&msg=%(message)s&n=%(n).3d".toList []).query
    ⟨.epoch, .info, "app", "a&b=c", some (.str "é"), [("n", .num (.int 7))]⟩ =
      "?lvl=INFO&msg=a%26b%3Dc&n=007%C3%A9".toList := by
  decide +kernel

/-- The message of a query has no values and shows the query, with looks or without. It is the one
line that a console prints for the record, and what a beacon appends to its base. -/
theorem render_message (f : QueryFormat) (r : Record) :
    (f.message r).values = [] ∧
      (f.message r).toPlain = f.query r ∧
      (f.message r).toAnsi = f.query r ∧
      (∀ (filter : Filter) (grouping : Bool) (styling : Styling),
        (Console.lines ⟨.query f, filter, grouping, styling⟩ r).1 = [f.query r]) ∧
      ∀ (base : String) (filter : Filter) (send : String → Except Error Unit),
        (Beacon.handle ⟨base, .query f, filter⟩ send r).1 =
          if filter.accepts r then some (Beacon.dispatch base.toList (f.query r) send)
          else none := by
  have hrender : ∀ s, (f.message r).render s = f.query r := fun s =>
    Message.render_ofText s (f.query r)
  refine ⟨rfl, hrender .plain, hrender .ansi, ?_, ?_⟩
  · intro filter grouping styling
    have hsplit : (f.message r).splitError? = none := Message.splitError?_of_values_nil _
    change Console.linesOf ⟨.query f, filter, grouping, styling⟩ r (f.message r) = _
    rw [Console.linesOf, hsplit, ite_self, hrender]
  · intro base filter send
    rw [Beacon.handle, ← hrender .plain]
    split
    · rfl
    · rfl

end QueryFormat

end Logline
