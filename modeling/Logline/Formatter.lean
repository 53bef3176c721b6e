import Logline.Layout
import Logline.Message
import Logline.Stylist
/-!
Formatters: from records to messages. A line is compiled once; a styled line surrounds the fields
that have a style with placeholders for it; a query, the tail of a URL, is complete text in which
every value is percent-encoded. A handler also takes a formatter of any other kind.
-/
namespace Logline

namespace Message

instance : Append Message := ⟨fun a b => ⟨a.template ++ b.template, a.values ++ b.values⟩⟩

/-- Message with the error, if there is one, behind it in a placeholder of its own. -/
def appendError (m : Message) (error : Option Json) : Message :=
  match error with
  | none => m
  | some e => ⟨m.template ++ ['%', 'o'], m.values ++ [e]⟩

end Message

/-- The first text, or the second if that is empty. -/
def orElseText (text default : List Char) : List Char :=
  if text = [] then default else text

structure LineFormat where
  layout : CompiledLayout
  timePattern : List Char
  deriving DecidableEq, Repr

namespace LineFormat

def defaultLayout : List Char := "%(name)-s %(message)-s".toList

def defaultTimePattern : List Char := "%H:%M:%S".toList

def make (layout timePattern : List Char) : LineFormat :=
  ⟨Layout.compile (orElseText layout defaultLayout),
    Time.strftime.checked (orElseText timePattern defaultTimePattern)⟩

def body (f : LineFormat) (r : Record) : Message :=
  ⟨f.layout.template, f.layout.directives.map fun d => d.value f.timePattern r⟩

def message (f : LineFormat) (r : Record) : Message :=
  (f.body r).appendError r.error

end LineFormat

/-- The stylist of a styled line remembers the colors it has given. -/
structure StyledFormat where
  layout : List Char
  timePattern : List Char
  stylist : Stylist

namespace StyledFormat

def defaultLayout : List Char := "%(message)".toList

def make (layout timePattern : List Char) (stylist : Stylist) : StyledFormat :=
  ⟨orElseText layout defaultLayout,
    Time.strftime.checked (orElseText timePattern Time.Pattern.default), stylist⟩

/-- Message part of a segment. The style is that of the text substituted, padding included. -/
def segmentMessage (timePattern : List Char) (r : Record) (s : Stylist) :
    Segment → Message × Stylist
  | .text t => (⟨t, []⟩, s)
  | .directive d =>
    match d.placeholder? with
    | none => (⟨[], []⟩, s)
    | some p =>
      let v := d.value timePattern r
      match s.style? d.key (String.ofList v.display) with
      | (none, s) => (⟨p.source, [v]⟩, s)
      | (some css, s) =>
        (⟨'%' :: 'c' :: (p.source ++ ['%', 'c']), [.str css, v, .str ""]⟩, s)

def segmentsMessage (timePattern : List Char) (r : Record) (s : Stylist) :
    List Segment → Message × Stylist
  | [] => (⟨[], []⟩, s)
  | seg :: segs =>
    let (front, s) := segmentMessage timePattern r s seg
    let (rest, s) := segmentsMessage timePattern r s segs
    (front ++ rest, s)

def body (f : StyledFormat) (r : Record) : Message × StyledFormat :=
  let (m, stylist) := segmentsMessage f.timePattern r f.stylist (Layout.segments f.layout)
  (m, { f with stylist })

def message (f : StyledFormat) (r : Record) : Message × StyledFormat :=
  let (m, f) := f.body r
  (m.appendError r.error, f)

end StyledFormat

structure QueryFormat where
  layout : List Char
  timePattern : List Char
  deriving DecidableEq, Repr

namespace QueryFormat

def defaultLayout : List Char := "%(levelname):%(name):%(message)".toList

def make (layout timePattern : List Char) : QueryFormat :=
  ⟨orElseText layout defaultLayout,
    Time.strftime.checked (orElseText timePattern Time.Pattern.default)⟩

/-- Query text of a segment. -/
def segmentText (f : QueryFormat) (r : Record) : Segment → List Char
  | .text t => t
  | .directive d =>
    match d.placeholder? with
    | none => []
    | some p => Text.Percent.encode (Message.mk p.source [d.value f.timePattern r]).toPlain

/-- Query of a record; its error comes last. -/
def query (f : QueryFormat) (r : Record) : List Char :=
  (Layout.segments f.layout).flatMap (f.segmentText r) ++
    Text.Percent.encode ((r.error.map Json.display).getD [])

/-- The query as a template without placeholders. -/
def message (f : QueryFormat) (r : Record) : Message :=
  ⟨(f.query r).flatMap fun c => if c = '%' then ['%', '%'] else [c], []⟩

end QueryFormat

inductive Formatter where
  | line (f : LineFormat)
  | styled (f : StyledFormat)
  | query (f : QueryFormat)
  /-- A formatter of one's own, whose messages may depend on all records that it was given before. -/
  | custom (format : List Record → Record → Message) (seen : List Record)

namespace Formatter

/-- Message of a record, and the formatter for the next one. -/
def message (f : Formatter) (r : Record) : Message × Formatter :=
  match f with
  | .line g => (g.message r, .line g)
  | .styled g =>
    let (m, g) := g.message r
    (m, .styled g)
  | .query g => (g.message r, .query g)
  | .custom format seen => (format seen r, .custom format (seen ++ [r]))

end Formatter

end Logline
