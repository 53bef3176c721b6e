import Logline.Error
import Logline.Json.Printer
import Logline.Text
import Logline.Time.Rfc3339
/-!
Log records, their levels and their JSON form, and the filters that they pass. A record has a few
fields of its own, which hide further fields of the same name; every other member of the JSON object
is kept as a further field.
-/
namespace Logline

/-- Severity of a record. -/
inductive Level where
  | notSet | debug | info | warning | error | critical
  deriving DecidableEq, Repr

namespace Level

def all : List Level :=
  [.notSet, .debug, .info, .warning, .error, .critical]

def number : Level → Nat
  | .notSet => 0
  | .debug => 10
  | .info => 20
  | .warning => 30
  | .error => 40
  | .critical => 50

def name : Level → String
  | .notSet => "NOTSET"
  | .debug => "DEBUG"
  | .info => "INFO"
  | .warning => "WARNING"
  | .error => "ERROR"
  | .critical => "CRITICAL"

/-- Level whose name is exactly `s`. -/
def ofExactName? (s : String) : Option Level :=
  all.find? (·.name == s)

/-- Level named in any mix of ASCII cases with blanks around; two levels have a second name. -/
def ofName? (s : String) : Option Level :=
  let key := String.ofList (Text.upperAscii (Text.trim s.toList))
  if key = "WARN" then some .warning
  else if key = "FATAL" then some .critical
  else ofExactName? key

def ofNumber? (n : Nat) : Option Level :=
  all.find? (·.number == n)

instance : LT Level := ⟨fun a b => a.number < b.number⟩
instance : LE Level := ⟨fun a b => a.number ≤ b.number⟩
instance (a b : Level) : Decidable (a < b) := Nat.decLt _ _
instance (a b : Level) : Decidable (a ≤ b) := Nat.decLe _ _

end Level

structure Record where
  created : Time.LocalTime
  level : Level
  name : String
  message : String
  error : Option Json
  /-- Further fields, sorted by key. -/
  extra : List (String × Json)
  deriving DecidableEq

namespace Record

/-- Value of a field; the record's own fields come before further ones. -/
def field? (r : Record) (key : String) : Option Json :=
  match key with
  | "name" => some (.str r.name)
  | "message" | "msg" => some (.str r.message)
  | "levelname" => some (.str r.level.name)
  | "levelno" => some (.num (.int r.level.number))
  | "created" => some (.num (.float r.created.toSeconds))
  | "msecs" => some (.num (.int r.created.subsecMillis))
  | "error" => r.error
  | key => r.extra.lookup key

/-- Keys that may hold the level; the first one present does. -/
def levelKeys : List String :=
  ["levelname", "level", "levelno"]

def levelKey? (ms : List (String × Json)) : Option String :=
  levelKeys.find? fun key => (ms.lookup key).isSome

/-- Level given by name, or as a whole number written without a point. -/
def readLevel : Json → Except Error Level
  | .str s => (Level.ofName? s).elim (.error (.unknownLevel s)) .ok
  | .num n =>
    let level := match n with
      | .int (.ofNat k) => Level.ofNumber? k
      | _ => none
    level.elim (.error (.unknownLevel (String.ofList n.text))) .ok
  | v => .error (.invalidRecord s!"unsupported level value {String.ofList v.compact}")

/-- Time given as a time stamp, or as seconds since the epoch, on the clock of a place. -/
def readCreated (zone : Time.Zone) (v : Json) : Except Error Time.LocalTime :=
  let created := match v with
    | .str s => Time.Instant.ofRfc3339? s.toList
    | .num n => Time.Instant.ofSeconds? n.toBinary64
    | _ => none
  created.elim (.error (.invalidRecord s!"unsupported created value {String.ofList v.compact}"))
    fun t => .ok (t.inZone zone)

/-- Text of a member; null counts as absent and other values are shown as JSON. -/
def text? (ms : List (String × Json)) (key : String) : Option String :=
  match ms.lookup key with
  | none | some .null => none
  | some v => some (String.ofList v.display)

/-- Members without those under the given keys. -/
def without (keys : List String) (ms : List (String × Json)) : List (String × Json) :=
  ms.filter fun m => !keys.contains m.1

/-- Keys that are consumed. The second name of the message counts only in place of the first. -/
def ownKeys (ms : List (String × Json)) : List String :=
  (levelKey? ms).toList ++ ["created", "name", "message", "error"] ++
    (if (text? ms "message").isSome then [] else ["msg"])

/-- Record of a JSON object. Without a time it is dated `now`, without a level it is an
information. -/
def ofMembers (zone : Time.Zone) (now : Time.LocalTime) (ms : List (String × Json)) :
    Except Error Record := do
  let level ← match (levelKey? ms).bind (List.lookup · ms) with
    | none => .ok .info
    | some v => readLevel v
  let created ← match ms.lookup "created" with
    | none => .ok now
    | some v => readCreated zone v
  .ok {
    created
    level
    name := (text? ms "name").getD ""
    message := (text? ms "message" <|> text? ms "msg").getD ""
    error := (ms.lookup "error").filter (· ≠ .null)
    extra := without (ownKeys ms) ms }

/-- Record of a JSON value, whose objects are brought into the order of their keys. -/
def ofJson (zone : Time.Zone) (now : Time.LocalTime) (v : Json) : Except Error Record :=
  match v.sorted with
  | .obj ms => ofMembers zone now ms
  | _ => .error (.invalidRecord "expected a JSON object")

end Record

/-- Least level of the records that pass and, optionally, the logger whose records pass together
with those of its dotted children. -/
structure Filter where
  level : Level
  logger : Option String
  deriving DecidableEq, Repr

namespace Filter

/-- Whether `logger` is `ancestor` or one of its dotted children. -/
def isWithin (ancestor logger : List Char) : Bool :=
  match ancestor, logger with
  | [], [] => true
  | [], c :: _ => c == '.'
  | a :: ancestor, c :: logger => a == c && isWithin ancestor logger
  | _ :: _, [] => false

/-- An empty logger counts as none. -/
def acceptsName (f : Filter) (name : String) : Bool :=
  match f.logger with
  | none => true
  | some logger => logger == "" || isWithin logger.toList name.toList

def accepts (f : Filter) (r : Record) : Bool :=
  decide (f.level ≤ r.level) && f.acceptsName r.name

end Filter

end Logline
