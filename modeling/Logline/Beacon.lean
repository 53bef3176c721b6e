import Logline.Formatter
import Logline.Record
/-!
Beacons: each record becomes one address that is sent and forgotten. An address that is too long is
not sent.
-/
namespace Logline

structure Beacon where
  base : String
  formatter : Formatter
  filter : Filter

/-- What came of a record: the address passed to the sender, if any, and the error reported. -/
structure Dispatch where
  sent : Option String
  error : Option Error
  deriving DecidableEq, Repr

namespace Beacon

/-- Greatest number of characters of an address. -/
def maxLength : Nat := 2048

/-- Base and query joined, unless that is too long. -/
def address (base query : List Char) : Except Error String :=
  let length := base.length + query.length
  if maxLength < length then .error (.urlTooLong length maxLength)
  else .ok (String.ofList (base ++ query))

/-- Send the address of a query and report what goes wrong. -/
def dispatch (base query : List Char) (send : String → Except Error Unit) : Dispatch :=
  match address base query with
  | .error e => ⟨none, some e⟩
  | .ok url =>
    match send url with
    | .error e => ⟨some url, some e⟩
    | .ok () => ⟨some url, none⟩

/-- Send a record, if it passes the filter; the beacon is ready for the next one. -/
def handle (b : Beacon) (send : String → Except Error Unit) (r : Record) :
    Option Dispatch × Beacon :=
  if b.filter.accepts r then
    let (m, formatter) := b.formatter.message r
    (some (dispatch b.base.toList m.toPlain send), { b with formatter })
  else (none, b)

end Beacon

end Logline
