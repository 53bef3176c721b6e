import Logline.Beacon
import Logline.Console
import Logline.StyleSheet
import Logline.Toml.Reader
import Logline.Url
/-!
Configurations: the settings of one handler, read from a TOML document. With an address the handler
is a beacon, without one a console.
-/
namespace Logline

/-- A level by number or by name. -/
inductive LevelSetting where
  | number (n : Nat)
  | name (s : String)
  deriving DecidableEq, Repr

namespace LevelSetting

def level : LevelSetting → Except Error Level
  | .number n =>
    (Level.ofNumber? n).elim (.error (.unknownLevel (String.ofList (Decimal.digits n)))) .ok
  | .name s => (Level.ofName? s).elim (.error (.unknownLevel s)) .ok

def toJson : LevelSetting → Json
  | .number n => .num (.int n)
  | .name s => .str s

end LevelSetting

structure Config where
  url : Option String
  layout : Option String
  timePattern : Option String
  grouping : Option Bool
  styles : Option StyleSheet
  level : Option LevelSetting
  logger : Option String
  support : Option Support
  deriving DecidableEq, Repr

namespace Config

def empty : Config := ⟨none, none, none, none, none, none, none, none⟩

/-- Setting that may be left out; one that is there has to be readable. -/
def readOptional? {α : Type} (read? : Json → Option α) (doc : Json) (key : String) :
    Option (Option α) :=
  match doc.get? key with
  | none => some none
  | some v => (read? v).map some

def readBool? : Json → Option Bool
  | .bool b => some b
  | _ => none

/-- A number has at most 32 bits and no point. -/
def readLevel? : Json → Option LevelSetting
  | .num (.int (.ofNat n)) => if n < 0x100000000 then some (.number n) else none
  | .str s => some (.name s)
  | _ => none

def supportOfName? (s : String) : Option Support :=
  [Support.inline, .unsupported].find? (·.name == s)

/-- A name, or a table that holds nothing but an empty entry under it. -/
def readSupport? : Json → Option Support
  | .str s => supportOfName? s
  | .obj [(s, .obj [])] | .obj [(s, .arr [])] => supportOfName? s
  | _ => none

/-- Settings of a document; entries with other keys are passed over. -/
def ofJson? (doc : Json) : Option Config := do
  some {
    url := ← readOptional? StyleSheet.readText? doc "url"
    layout := ← readOptional? StyleSheet.readText? doc "format"
    timePattern := ← readOptional? StyleSheet.readText? doc "time_format"
    grouping := ← readOptional? readBool? doc "grouping"
    styles := ← readOptional? StyleSheet.ofJson? doc "styles"
    level := ← readOptional? readLevel? doc "level"
    logger := ← readOptional? StyleSheet.readText? doc "logger"
    support := ← readOptional? readSupport? doc "styling" }

/-- Level of the records that pass; without a setting all do. -/
def leastLevel (c : Config) : Except Error Level :=
  match c.level with
  | none => .ok .notSet
  | some setting => setting.level

def requireText (field : String) (value : Option String) : Except Error Unit :=
  if value.any fun s => Text.trim s.toList = [] then
    .error (.configValue field "must not be empty")
  else .ok ()

/-- Settings that can be read and still cannot work: first the level, then the address, last the
logger. -/
def validate (c : Config) : Except Error Unit := do
  match c.leastLevel with
  | .error e => .error (.configValue "level" e.message)
  | .ok _ => .ok ()
  requireText "url" c.url
  requireText "logger" c.logger

/-- Configuration of a TOML document; `origin` names the document in errors. -/
def parse (origin : String) (text : List Char) : Except Error Config :=
  match (Toml.read? text).bind ofJson? with
  | none => .error (.configSyntax origin)
  | some c => c.validate.map fun _ => c

end Config

namespace Beacon

/-- Addresses that a beacon can reach. -/
def checkBase (url : String) : Except Error Unit :=
  match Url.scheme? url.toList with
  | none => .error (.invalidUrl url)
  | some scheme =>
    let scheme := String.ofList scheme
    if scheme = "http" ∨ scheme = "https" then .ok () else .error (.unsupportedScheme scheme)

end Beacon

inductive Handler where
  | console (c : Console)
  | beacon (b : Beacon)

namespace Handler

def filter : Handler → Filter
  | .console c => c.filter
  | .beacon b => b.filter

end Handler

namespace Config

/-- Handler of a configuration. `support` counts unless the configuration decides, and `draws` are
for random colors. -/
def handler (c : Config) (support : Support) (draws : Draws) : Except Error Handler := do
  let layout := (c.layout.getD "").toList
  let timePattern := (c.timePattern.getD "").toList
  let filter : Filter := ⟨← c.leastLevel, c.logger⟩
  match c.url with
  | some url =>
    Beacon.checkBase url
    .ok (.beacon ⟨url, .query (.make layout timePattern), filter⟩)
  | none =>
    let support := c.support.getD support
    let stylist := Stylist.ofSheet draws (c.styles.getD .empty) support
    let styling := if support = .inline then .ansi else .plain
    .ok (.console
      ⟨.styled (.make layout timePattern stylist), filter, c.grouping.getD true, styling⟩)

end Config

end Logline
