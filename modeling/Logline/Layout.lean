import Logline.Placeholder
/-!
Layouts: text in which directives stand for the fields of a record. Every text is a layout; what
does not form a directive stands for itself. A layout amounts to a console template and the
directives that feed its placeholders.
-/
namespace Logline

/-- Part of a layout. An opener that begins no directive is a text of its own. -/
inductive Segment where
  | text (t : List Char)
  | directive (d : Directive)
  deriving DecidableEq, Repr

/-- Placeholder that shows the directive's value; none if the type letter is unknown. A width and a
precision count for numbers only, since text is padded before it is substituted. -/
def Directive.placeholder? (d : Directive) : Option Placeholder :=
  if d.isTime then some ⟨none, none, 's'⟩
  else
    match d.kind with
    | .string => some ⟨none, none, 's'⟩
    | .int => some ⟨d.width, d.precision, 'd'⟩
    | .float => some ⟨d.width, d.precision, 'f'⟩
    | .object => some ⟨none, none, 'o'⟩
    | .inspect => some ⟨none, none, 'O'⟩
    | .unknown _ => none

/-- Notation of a placeholder in a template. -/
def Placeholder.source (p : Placeholder) : List Char :=
  let width := (p.width.map Decimal.digits).getD []
  let precision := (p.precision.map fun n => '.' :: Decimal.digits n).getD []
  '%' :: (width ++ precision ++ [p.conversion])

/-- Template and directives of the same number of placeholders. -/
structure CompiledLayout where
  template : List Char
  directives : List Directive
  deriving DecidableEq, Repr

namespace Layout

/-- Text up to the first opener `%(`, and the rest from the opener on. -/
def splitOpener : List Char → List Char × List Char
  | [] => ([], [])
  | '%' :: '(' :: cs => ([], '%' :: '(' :: cs)
  | c :: cs => (c :: (splitOpener cs).1, (splitOpener cs).2)

@[simp] theorem splitOpener_append (cs : List Char) :
    (splitOpener cs).1 ++ (splitOpener cs).2 = cs := by
  fun_induction splitOpener cs <;> simp_all

theorem length_splitOpener (cs : List Char) : (splitOpener cs).2.length ≤ cs.length := by
  fun_induction splitOpener cs <;> grind

/-- Segments of a layout in order. -/
def segments (cs : List Char) : List Segment :=
  match cs with
  | [] => []
  | '%' :: '(' :: body =>
    match _h : Directive.read body with
    | some (d, rest) => .directive d :: segments rest
    | none => .text ['%', '('] :: segments body
  | c :: cs => .text (c :: (splitOpener cs).1) :: segments (splitOpener cs).2
termination_by cs.length
decreasing_by
  · have := Directive.length_read _h
    simp only [List.length_cons]; omega
  · simp only [List.length_cons]; omega
  · have := length_splitOpener cs
    simp only [List.length_cons]; omega

/-- Directives of a layout in order. -/
def directives (cs : List Char) : List Directive :=
  (segments cs).filterMap fun
    | .directive d => some d
    | .text _ => none

/-- Template text of a segment; a directive of unknown type leaves nothing. -/
def templateOf : Segment → List Char
  | .text t => t
  | .directive d => (d.placeholder?.map Placeholder.source).getD []

def compile (cs : List Char) : CompiledLayout :=
  ⟨(segments cs).flatMap templateOf, (directives cs).filter (·.placeholder?.isSome)⟩

end Layout

end Logline
