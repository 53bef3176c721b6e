import Logline.Json.Token
/-!
Reading a JSON text: tokens are taken one at a time, with the containers that are still open on a
stack. Members keep the order of the text and repeated keys are kept.
-/
namespace Logline.Json

/-- A container that is still open, its finished entries last first. -/
inductive Frame where
  | items (done : List Json)
  | members (done : List (String × Json))
  | member (done : List (String × Json)) (key : String)

/-- What may stand next: `separator v` follows a finished value. -/
inductive Expected where
  | value | firstItem | firstKey | key | colon
  | separator (v : Json)

structure Progress where
  frames : List Frame
  expected : Expected

/-- More open containers than this are refused. -/
def maxDepth : Nat := 127

namespace Progress

def start : Progress := ⟨[], .value⟩

/-- Token where a value has to begin. -/
def beginValue (frames : List Frame) : Token → Option Progress
  | .atom v => some ⟨frames, .separator v⟩
  | .text s => some ⟨frames, .separator (.str s)⟩
  | .openItems =>
    if frames.length < maxDepth then some ⟨.items [] :: frames, .firstItem⟩ else none
  | .openMembers =>
    if frames.length < maxDepth then some ⟨.members [] :: frames, .firstKey⟩ else none
  | _ => none

/-- Token behind a finished value. -/
def afterValue (v : Json) : List Frame → Token → Option Progress
  | .items done :: frames, .comma => some ⟨.items (v :: done) :: frames, .value⟩
  | .items done :: frames, .closeItems => some ⟨frames, .separator (.arr (v :: done).reverse)⟩
  | .member done k :: frames, .comma => some ⟨.members ((k, v) :: done) :: frames, .key⟩
  | .member done k :: frames, .closeMembers =>
    some ⟨frames, .separator (.obj ((k, v) :: done).reverse)⟩
  | _, _ => none

def step (p : Progress) (t : Token) : Option Progress :=
  match p.expected, p.frames, t with
  | .value, frames, t => beginValue frames t
  | .firstItem, .items [] :: frames, .closeItems => some ⟨frames, .separator (.arr [])⟩
  | .firstItem, frames, t => beginValue frames t
  | .firstKey, .members [] :: frames, .closeMembers => some ⟨frames, .separator (.obj [])⟩
  | .firstKey, .members done :: frames, .text k => some ⟨.member done k :: frames, .colon⟩
  | .key, .members done :: frames, .text k => some ⟨.member done k :: frames, .colon⟩
  | .colon, frames, .colon => some ⟨frames, .value⟩
  | .separator v, frames, t => afterValue v frames t
  | _, _, _ => none

/-- The value once every container is closed. -/
def finished? : Progress → Option Json
  | ⟨[], .separator v⟩ => some v
  | _ => none

end Progress

/-- Value of a whole text. -/
def read? (cs : List Char) : Option Json := do
  let ts ← tokens cs
  let p ← ts.foldlM Progress.step .start
  p.finished?

end Logline.Json
