import Logline.Formatter
import Logline.Record
import Logline.Text
/-!
Consoles: records as lines on a device. With grouping, the error of a record stands indented below
its line. What the device refuses ends the record and is reported, and later records go on.
-/
namespace Logline

namespace Message

/-- Message without the placeholder that ends its template, and the value for it. -/
def splitError? (m : Message) : Option (Message × Json) :=
  if ['%', 'o'].isSuffixOf m.template then
    m.values.getLast?.map fun e =>
      (⟨m.template.take (m.template.length - 2), m.values.dropLast⟩, e)
  else none

end Message

/-- What a device does with the writes of one record: `accepts` sees what it has kept before. -/
structure Device where
  accepts : List (List Char) → List Char → Bool
  flushes : Bool

inductive Outcome where
  | written | writeFailed | flushFailed
  deriving DecidableEq, Repr

/-- What came of writing a record: the texts that the device keeps, in order. -/
structure Delivery where
  kept : List (List Char)
  outcome : Outcome
  deriving DecidableEq, Repr

namespace Device

/-- A device that takes everything. -/
def perfect : Device := ⟨fun _ _ => true, true⟩

/-- A device that keeps at most `limit` bytes of a record and refuses a text that goes beyond. -/
def limited (limit : Option Nat) (flushes : Bool) : Device :=
  let bytes (cs : List Char) : Nat := (Text.toUtf8 cs).length
  ⟨fun kept next => limit.all fun n => bytes kept.flatten + bytes next ≤ n, flushes⟩

/-- Texts taken in order up to the first that is refused; whether none was. -/
def take (d : Device) (kept : List (List Char)) : List (List Char) → List (List Char) × Bool
  | [] => (kept, true)
  | next :: rest => if d.accepts kept next then d.take (kept ++ [next]) rest else (kept, false)

/-- Write all texts and flush if none was refused. -/
def deliver (d : Device) (writes : List (List Char)) : Delivery :=
  match d.take [] writes with
  | (kept, false) => ⟨kept, .writeFailed⟩
  | (kept, true) => ⟨kept, if d.flushes then .written else .flushFailed⟩

end Device

namespace Delivery

def error? (d : Delivery) : Option Error :=
  if d.outcome = .written then none else some .output

def text (d : Delivery) : List Char :=
  d.kept.flatten

end Delivery

structure Console where
  formatter : Formatter
  filter : Filter
  grouping : Bool
  styling : Styling

namespace Console

/-- Lines of an error below the record's own line. -/
def errorLines (e : Json) : List (List Char) :=
  (Text.lines e.pretty).map fun line => ' ' :: ' ' :: line

/-- Lines of a record that was formatted as `m`. -/
def linesOf (c : Console) (r : Record) (m : Message) : List (List Char) :=
  let group := if c.grouping && r.error.isSome then m.splitError? else none
  match group with
  | none => [m.render c.styling]
  | some (m, e) => m.render c.styling :: errorLines e

/-- Lines of a record, and the console for the next one. -/
def lines (c : Console) (r : Record) : List (List Char) × Console :=
  let (m, formatter) := c.formatter.message r
  (c.linesOf r m, { c with formatter })

/-- Texts written for lines; an empty line is its line break alone. -/
def writes (lines : List (List Char)) : List (List Char) :=
  lines.flatMap fun line => if line = [] then [['\n']] else [line, ['\n']]

/-- Write a record to a device, if it passes the filter. -/
def handle (c : Console) (d : Device) (r : Record) : Option Delivery × Console :=
  if c.filter.accepts r then
    let (lines, c) := c.lines r
    (some (d.deliver (writes lines)), c)
  else (none, c)

end Console

end Logline
