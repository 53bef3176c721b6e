import Logline.Look
import Logline.Placeholder
/-!
Messages: a console template with the values for its placeholders. In a template `%%` stands for a
percent sign, as does any other one that begins no placeholder. A placeholder without a value is
shown as written, and values without a placeholder follow the text, each after a blank.
-/
namespace Logline

namespace Template

/-- Part of a template. A placeholder comes with the text it was written as. -/
inductive Piece where
  | text (t : List Char)
  | placeholder (p : Placeholder) (source : List Char)
  deriving DecidableEq, Repr

/-- Put a character in front of the first text. -/
def cons (c : Char) : List Piece → List Piece
  | .text t :: ps => .text (c :: t) :: ps
  | ps => .text [c] :: ps

/-- Pieces of a template in order; a doubled percent sign ends the text that holds its one sign. -/
def pieces (cs : List Char) : List Piece :=
  match cs with
  | [] => []
  | '%' :: '%' :: cs => .text ['%'] :: pieces cs
  | '%' :: cs =>
    match _h : Placeholder.read cs with
    | some (p, rest) => .placeholder p ('%' :: cs.take (cs.length - rest.length)) :: pieces rest
    | none => cons '%' (pieces cs)
  | c :: cs => cons c (pieces cs)
termination_by cs.length
decreasing_by
  · simp only [List.length_cons]; omega
  · have := Placeholder.length_read _h
    simp only [List.length_cons]; omega
  · simp
  · simp

end Template

structure Message where
  template : List Char
  values : List Json
  deriving DecidableEq

/-- What becomes of the looks that a message asks for. -/
inductive Styling where
  | ansi | plain
  deriving DecidableEq, Repr

namespace Message

def paint (s : Styling) (l : Look) (cs : List Char) : List Char :=
  match s with
  | .ansi => l.paint cs
  | .plain => cs

/-- Values that no placeholder consumed. -/
def leftover (s : Styling) (l : Look) (vs : List Json) : List Char :=
  vs.flatMap fun v => ' ' :: paint s l v.display

/-- Text of the pieces in order. The conversion `c` shows nothing and sets the look of what
follows. -/
def renderPieces (s : Styling) : List Template.Piece → List Json → Look → List Char
  | [], vs, l => leftover s l vs
  | .text t :: ps, vs, l => paint s l t ++ renderPieces s ps vs l
  | .placeholder _ source :: ps, [], l => paint s l source ++ renderPieces s ps [] l
  | .placeholder p _ :: ps, v :: vs, l =>
    if p.conversion = 'c' then renderPieces s ps vs (.ofCss v.display)
    else paint s l (p.format v) ++ renderPieces s ps vs l

def render (s : Styling) (m : Message) : List Char :=
  renderPieces s (Template.pieces m.template) m.values .plain

/-- Text without any look. -/
def toPlain (m : Message) : List Char :=
  m.render .plain

/-- Text with looks as escape sequences. -/
def toAnsi (m : Message) : List Char :=
  m.render .ansi

end Message

end Logline
