import Logline.Json
import Logline.Ordered
/-!
Style sheets: declarations for the values of fields, with a wildcard for all other values of a field
and a block that every rule shares. The document of a sheet is an object with a member for every
field, and one for the shared block.
-/
namespace Logline

/-- Properties with their values, each property once. -/
abbrev Declarations := List (String × String)

structure StyleSheet where
  shared : Option Declarations
  /-- Rules by field and then by value. -/
  rules : List (String × List (String × Declarations))
  deriving DecidableEq, Repr

namespace StyleSheet

/-- Value of a rule that applies where no other rule of its field does. -/
def wildcard : String := "*"

def empty : StyleSheet := ⟨none, []⟩

/-- A sheet without rules is empty, whatever the rules would share. -/
def isEmpty (s : StyleSheet) : Bool :=
  s.rules.isEmpty

/-- Set the block that the rules share. -/
def withShared (s : StyleSheet) (declarations : Declarations) : StyleSheet :=
  { s with shared := some (Ordered.ofList declarations) }

/-- Set the rule of a value; one set before is replaced in its place. -/
def withRule (s : StyleSheet) (field value : String) (declarations : Declarations) : StyleSheet :=
  let values := Ordered.put value (Ordered.ofList declarations) ((s.rules.lookup field).getD [])
  { s with rules := Ordered.put field values s.rules }

/-- Rule of exactly this value, else of any value of the field. -/
def rule? (s : StyleSheet) (field value : String) : Option Declarations := do
  let values ← s.rules.lookup field
  values.lookup value <|> values.lookup wildcard

/-- Shared declarations first; the rule's own replace those of the same property. -/
def merged (s : StyleSheet) (rule : Declarations) : Declarations :=
  Ordered.putAll (s.shared.getD []) rule

/-- Name of the member that holds the shared block, and so of no field. -/
def sharedKey : String := "common"

def ofDeclarations (ds : Declarations) : Json :=
  .obj (ds.map fun d => (d.1, .str d.2))

/-- Document of a sheet. The shared block comes first and is left out when there is none. -/
def toJson (s : StyleSheet) : Json :=
  let shared := s.shared.toList.map fun ds => (sharedKey, ofDeclarations ds)
  let rules := s.rules.map fun field =>
    (field.1, Json.obj (field.2.map fun value => (value.1, ofDeclarations value.2)))
  .obj (shared ++ rules)

def readText? : Json → Option String
  | .str s => some s
  | _ => none

/-- Ordered map of an object's members; of several with one key the last counts. -/
def readMap? {α : Type} (read? : Json → Option α) (v : Json) : Option (List (String × α)) :=
  match v with
  | .obj ms => (ms.mapM fun m => (read? m.2).map (m.1, ·)).map Ordered.ofList
  | _ => none

def readDeclarations? : Json → Option Declarations :=
  readMap? readText?

/-- Shared block, given at most once; null stands for none. -/
def readShared? : List Json → Option (Option Declarations)
  | [] | [.null] => some none
  | [v] => (readDeclarations? v).map some
  | _ => none

/-- Sheet of a document. -/
def ofJson? (v : Json) : Option StyleSheet :=
  match v with
  | .obj ms => do
    let (shared, fields) := ms.partition fun m => m.1 == sharedKey
    let shared ← readShared? (shared.map Prod.snd)
    let rules ← readMap? (readMap? readDeclarations?) (.obj fields)
    some ⟨shared, rules⟩
  | _ => none

end StyleSheet

end Logline
