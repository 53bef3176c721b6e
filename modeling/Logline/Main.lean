import Logline.Program
import Std.Time.Zoned.Database
/-!
The command-line program. Formatted lines go to standard output; addresses of beacons, skipped lines
and failures go to standard error.
-/
namespace Logline.Program

/-- What stands under a path; a directory can be opened and not read. -/
def source (path : String) : IO Source := do
  try
    return .content (← IO.FS.readBinFile path).toList
  catch
    | .inappropriateType .. => return .unreadable
    | _ => return .missing

/-- All that is left of a stream. -/
partial def readAll (stream : IO.FS.Stream) (done : ByteArray) : IO ByteArray := do
  let chunk ← stream.read 65536
  if chunk.isEmpty then return done else readAll stream (done ++ chunk)

def perform : Action → IO Unit
  | .print text => IO.print (String.ofList text)
  | .send url => IO.eprintln s!"beacon {url}"
  | .skip lineNumber => IO.eprintln s!"Skipping invalid record in line {lineNumber}"

def finish (r : Report) : IO UInt32 := do
  r.actions.forM perform
  if let some message := r.failure then IO.eprintln s!"Error: {message}"
  return r.code.toUInt32

/-- Styles are shown on a terminal unless the environment asks for none. -/
def detectSupport : IO Support := do
  let noColor := (← IO.getEnv "NO_COLOR").any (· ≠ "")
  let isTerminal ← (← IO.getStdout).isTty
  return if noColor || !isTerminal then .unsupported else .inline

/-- Clocks of the place that the system is set to; UTC if it is set to none. -/
def zone : IO Time.Zone := do
  try
    let rules ← Std.Time.Database.defaultGetLocalZoneRules
    return fun seconds =>
      .ofSeconds (rules.timezoneAt (.ofSecondsSinceUnixEpoch (.ofInt seconds))).offset.second.val
  catch _ => return .utc

/-- Current time to the millisecond. -/
def now : IO Time.Instant := do
  return .ofMillis (← Std.Time.Timestamp.now).toMillisecondsSinceUnixEpoch.val

def runOptions (o : Options) : IO UInt32 := do
  let configSource ← match o.config with
    | some path => source path
    | none => pure .missing
  let support ← if o.noStyle then pure .unsupported else detectSupport
  match handler o (fun _ => configSource) support (.seeded (← IO.rand 0 0xffffff)) with
  | .error message => finish ⟨1, [], some message⟩
  | .ok h =>
    let input ← match o.input with
      | some path => source path
      | none => do pure (.content (← readAll (← IO.getStdin) .empty).toList)
    let zone ← zone
    finish (process h zone ((← now).inZone zone) (o.input.getD "") input)

end Logline.Program

def main (args : List String) : IO UInt32 :=
  match Logline.CommandLine.read args with
  | .run o => Logline.Program.runOptions o
  | i => Logline.Program.finish ((Logline.Program.answer? i).getD ⟨2, [], none⟩)
