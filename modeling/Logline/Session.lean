import Logline.Config
import Logline.Json.Reader
/-!
Sessions: a handler is given one line of input after the other. Blank lines are passed over, and
lines that hold no record are skipped and counted.
-/
namespace Logline

/-- What is to be done for a line. -/
inductive Action where
  | print (text : List Char)
  | send (url : String)
  | skip (lineNumber : Nat)
  deriving DecidableEq, Repr

namespace Handler

/-- Handle a record and leave what is to be done. An address that is too long is not sent. -/
def handle (h : Handler) (r : Record) : List Action × Handler :=
  match h with
  | .console c =>
    let (delivery, c) := c.handle .perfect r
    (delivery.toList.map fun d => .print d.text, .console c)
  | .beacon b =>
    let (dispatch, b) := b.handle (fun _ => .ok ()) r
    ((dispatch.bind Dispatch.sent).toList.map .send, .beacon b)

end Handler

/-- Content of a line of input. -/
inductive Line where
  | blank
  | invalid
  | record (r : Record)
  deriving DecidableEq

namespace Line

def ofText (zone : Time.Zone) (now : Time.LocalTime) (cs : List Char) : Line :=
  if Text.trim cs = [] then .blank
  else
    match Json.read? cs with
    | none => .invalid
    | some v =>
      match Record.ofJson zone now v with
      | .error _ => .invalid
      | .ok r => .record r

end Line

namespace Session

/-- Actions for a line, and the handler for the next one. -/
def handleLine (h : Handler) (number : Nat) : Line → List Action × Handler
  | .blank => ([], h)
  | .invalid => ([.skip number], h)
  | .record r => h.handle r

/-- Actions for lines, the first of which has the given number. -/
def run (h : Handler) (number : Nat) : List Line → List Action
  | [] => []
  | line :: lines =>
    let (actions, h) := handleLine h number line
    actions ++ run h (number + 1) lines

/-- Texts of the lines up to the first that is no text, and whether all are. -/
def readTexts : List (List UInt8) → List (List Char) × Bool
  | [] => ([], true)
  | line :: lines =>
    match Text.ofUtf8? line with
    | none => ([], false)
    | some cs =>
      let (texts, complete) := readTexts lines
      (cs :: texts, complete)

/-- Actions for an input, and whether it could be read to its end. -/
def ofInput (h : Handler) (zone : Time.Zone) (now : Time.LocalTime) (input : List UInt8) :
    List Action × Bool :=
  let (texts, complete) := readTexts (Text.byteLines input)
  (run h 1 (texts.map (Line.ofText zone now)), complete)

end Session

end Logline
