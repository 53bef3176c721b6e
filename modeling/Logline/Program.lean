import Logline.CommandLine
import Logline.Session
/-!
The program: what a command line amounts to, given the files it names and its standard input.
-/
namespace Logline

/-- What stands under a path. -/
inductive Source where
  | missing
  | unreadable
  | content (bytes : List UInt8)
  deriving DecidableEq, Repr

/-- How a run ended: what it did, and the message of a failure. -/
structure Report where
  code : Nat
  actions : List Action
  failure : Option String
  deriving DecidableEq, Repr

namespace Program

def name : String := "bk-log"

def version : String := "0.1.0"

/-- Configuration file that an option names. -/
def readConfig (path : String) : Source → Except Error Config
  | .missing | .unreadable => .error (.io path)
  | .content bytes =>
    match Text.ofUtf8? bytes with
    | none => .error (.io path)
    | some text => Config.parse path text

/-- Settings that count: those of the command line in place of those of its configuration file. -/
def config (o : Options) (files : String → Source) : Except String Config := do
  let config ← match o.config with
    | none => .ok .empty
    | some path => (readConfig path (files path)).mapError Error.message
  let config := o.override config
  config.validate.mapError Error.message
  .ok config

/-- Handler for the options, or the message of what is wrong. -/
def handler (o : Options) (files : String → Source) (support : Support) (draws : Draws) :
    Except String Handler := do
  let config ← config o files
  (config.handler support draws).mapError fun _ => "Cannot build handler"

/-- Run over an input. -/
def process (h : Handler) (zone : Time.Zone) (now : Time.LocalTime) (path : String) :
    Source → Report
  | .missing => ⟨1, [], some s!"Cannot open {path}"⟩
  | .unreadable => ⟨1, [], some "Cannot read input"⟩
  | .content bytes =>
    let (actions, complete) := Session.ofInput h zone now bytes
    if complete then ⟨0, actions, none⟩ else ⟨1, actions, some "Cannot read input"⟩

/-- Text of something that may be absent. -/
def optionText : Option (List Char) → List Char
  | none => "None".toList
  | some cs => "Some(".toList ++ cs ++ [')']

def quoteText (c : Char) : List Char :=
  ['\x27', c, '\x27']

/-- Name of a type; an unknown one is shown with its letter. -/
def kindText : Kind → List Char
  | .string => "String".toList
  | .int => "Int".toList
  | .float => "Float".toList
  | .object => "Object".toList
  | .inspect => "Inspect".toList
  | .unknown c => "Unknown(".toList ++ quoteText c ++ [')']

/-- Line that describes a directive. -/
def directiveLine (d : Directive) : List Char :=
  ' ' :: ' ' :: d.key.toList ++ " kind=".toList ++ kindText d.kind ++
    " flag=".toList ++ optionText (d.flag.map quoteText) ++
    " width=".toList ++ optionText (d.width.map Decimal.digits) ++
    " precision=".toList ++ optionText (d.precision.map Decimal.digits) ++ ['\n']

/-- What a layout compiles to: its template, then its directives. -/
def compiledText (layout : String) : List Char :=
  let c := Layout.compile layout.toList
  c.template ++ '\n' :: c.directives.flatMap directiveLine

/-- Report of an invocation that reads no records. -/
def answer? : Invocation → Option Report
  | .run _ => none
  | .compile layout => some ⟨0, [.print (compiledText layout)], none⟩
  | .version => some ⟨0, [.print (name ++ " " ++ version ++ "\n").toList], none⟩
  | .help topic => some ⟨0, [.print topic.text.toList], none⟩
  | .usageError => some ⟨2, [], none⟩

/-- Report of a command line, given what stands under the paths it may name. -/
def run (args : List String) (files : String → Source) (stdin : Source) (support : Support)
    (zone : Time.Zone) (now : Time.LocalTime) (draws : Draws) : Report :=
  match CommandLine.read args with
  | .run o =>
    match handler o files support draws with
    | .error message => ⟨1, [], some message⟩
    | .ok h =>
      match o.input with
      | none => process h zone now "" stdin
      | some path => process h zone now path (files path)
  | i => (answer? i).getD ⟨2, [], none⟩

end Program

end Logline
