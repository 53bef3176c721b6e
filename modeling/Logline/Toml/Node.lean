import Logline.Json
import Logline.Ordered
/-!
Tables under construction. How a table came to be decides how later lines may extend it: a header
names a table once, and a dotted key extends only tables that dotted keys began.
-/
namespace Logline.Toml

inductive Origin where
  /-- Named by a header of its own. -/
  | header
  /-- Begun by the header of a table inside it. -/
  | implied
  /-- Begun by a dotted key. -/
  | dotted
  /-- Written in braces, and so complete. -/
  | braces
  deriving DecidableEq, Repr

/-- A value or table of a document under construction. -/
inductive Node where
  | leaf (v : Json)
  | array (items : List Node)
  | table (origin : Origin) (entries : List (String × Node))
  /-- An array of tables that headers build; the last one is still open. -/
  | tables (done : List (List (String × Node))) (last : List (String × Node))

abbrev Entries := List (String × Node)

namespace Entries

/-- Change the table that the keys of a header lead to, beginning tables that are missing. -/
def alongHeader (change : Entries → Option Entries) : List String → Entries → Option Entries
  | [], es => change es
  | k :: ks, es =>
    match es.lookup k with
    | none => (alongHeader change ks []).map fun sub => Ordered.put k (.table .implied sub) es
    | some (.table o sub) =>
      if o = .braces then none
      else (alongHeader change ks sub).map fun sub => Ordered.put k (.table o sub) es
    | some (.tables done last) =>
      (alongHeader change ks last).map fun last => Ordered.put k (.tables done last) es
    | some (.leaf _) | some (.array _) => none

/-- Open the table of a header. One that is there may only be implied; it moves to the end. -/
def openTable (key : String) (es : Entries) : Option Entries :=
  match es.lookup key with
  | none => some (es ++ [(key, .table .header [])])
  | some (.table .implied sub) => some (es.filter (·.1 != key) ++ [(key, .table .header sub)])
  | some _ => none

/-- Open the next table of an array of tables. -/
def openElement (key : String) (es : Entries) : Option Entries :=
  match es.lookup key with
  | none => some (es ++ [(key, .tables [] [])])
  | some (.tables done last) => some (Ordered.put key (.tables (done ++ [last]) []) es)
  | some _ => none

/-- Put a value under the keys of a dotted key, the last of them `key`. The table that holds it was
begun by a dotted key, unless it is the open one. -/
def assign (key : String) (v : Node) : List String → Entries → Option Entries
  | [], es => if (es.lookup key).isSome then none else some (es ++ [(key, v)])
  | k :: ks, es =>
    match es.lookup k with
    | none => (assign key v ks []).map fun sub => Ordered.put k (.table .dotted sub) es
    | some (.table o sub) =>
      if o = .dotted ∨ (o = .implied ∧ ks ≠ []) then
        (assign key v ks sub).map fun sub => Ordered.put k (.table o sub) es
      else none
    | some (.tables done last) =>
      if ks = [] then none
      else (assign key v ks last).map fun last => Ordered.put k (.tables done last) es
    | some (.leaf _) | some (.array _) => none

end Entries

namespace Node

mutual

/-- Finished value of a node. -/
def toJson : Node → Json
  | .leaf v => v
  | .array items => .arr (itemsToJson items)
  | .table _ es => .obj (entriesToJson es)
  | .tables done last => .arr (tablesToJson done ++ [.obj (entriesToJson last)])

def itemsToJson : List Node → List Json
  | [] => []
  | n :: ns => toJson n :: itemsToJson ns

def entriesToJson : List (String × Node) → List (String × Json)
  | [] => []
  | (k, n) :: es => (k, toJson n) :: entriesToJson es

def tablesToJson : List (List (String × Node)) → List Json
  | [] => []
  | es :: ts => .obj (entriesToJson es) :: tablesToJson ts

end

end Node

end Logline.Toml
