import Logline.Config
import Logline.Help
/-!
The command line: options and a file, or a command of its own. Options are read from left to right,
and the first thing that is wrong, asks for help or asks for the version decides. Only the name of a
command comes before a fault in the value in front of it.
-/
namespace Logline

structure Options where
  verbose : Bool
  noStyle : Bool
  noGrouping : Bool
  config : Option String
  layout : Option String
  timePattern : Option String
  url : Option String
  level : Option String
  logger : Option String
  input : Option String
  deriving DecidableEq, Repr

inductive Invocation where
  | run (o : Options)
  | compile (layout : String)
  | help (topic : Topic)
  | version
  | usageError
  deriving DecidableEq, Repr

namespace Options

def empty : Options :=
  ⟨false, false, false, none, none, none, none, none, none, none⟩

inductive Flag where
  | verbose | noStyle | noGrouping
  deriving DecidableEq, Repr

/-- Options that take a value. -/
inductive Setting where
  | config | layout | timePattern | url | level | logger
  deriving DecidableEq, Repr

/-- What an option asks for. -/
inductive Meaning where
  | flag (f : Flag)
  | setting (s : Setting)
  | help
  | version

def ofLongName? (name : String) : Option Meaning :=
  match name with
  | "verbose" => some (.flag .verbose)
  | "no-style" => some (.flag .noStyle)
  | "no-grouping" => some (.flag .noGrouping)
  | "config" => some (.setting .config)
  | "format" => some (.setting .layout)
  | "time-format" => some (.setting .timePattern)
  | "url" => some (.setting .url)
  | "level" => some (.setting .level)
  | "logger" => some (.setting .logger)
  | "help" => some .help
  | "version" => some .version
  | _ => none

def ofLetter? (c : Char) : Option Meaning :=
  match c with
  | 'v' => some (.flag .verbose)
  | 'c' => some (.setting .config)
  | 'h' => some .help
  | 'V' => some .version
  | _ => none

/-- Give a flag; twice is once too often. -/
def giveFlag? (o : Options) : Flag → Option Options
  | .verbose => if o.verbose then none else some { o with verbose := true }
  | .noStyle => if o.noStyle then none else some { o with noStyle := true }
  | .noGrouping => if o.noGrouping then none else some { o with noGrouping := true }

/-- Value for an option that has none yet. -/
def fresh? (old : Option String) (value : String) : Option (Option String) :=
  if old.isSome then none else some (some value)

/-- Give a value; a path may not be empty. -/
def giveSetting? (o : Options) (s : Setting) (value : String) : Option Options :=
  match s with
  | .config =>
    if value = "" then none else (fresh? o.config value).map fun v => { o with config := v }
  | .layout => (fresh? o.layout value).map fun v => { o with layout := v }
  | .timePattern => (fresh? o.timePattern value).map fun v => { o with timePattern := v }
  | .url => (fresh? o.url value).map fun v => { o with url := v }
  | .level => (fresh? o.level value).map fun v => { o with level := v }
  | .logger => (fresh? o.logger value).map fun v => { o with logger := v }

def giveInput? (o : Options) (value : String) : Option Options :=
  if value = "" then none else (fresh? o.input value).map fun v => { o with input := v }

end Options

namespace CommandLine

/-- Where reading stands. -/
inductive State where
  | options (o : Options)
  /-- An option waits for its value. -/
  | pending (o : Options) (s : Options.Setting)
  /-- The argument in front was the faulty value of an option or a file. -/
  | faulty
  | files (o : Options)
  | compile
  | compileText
  | compiled (layout : String)
  | compiledOnly (layout : String)
  /-- A command behind a faulty value, which can only end in help. -/
  | behindFault (s : State)
  | helpFor
  | helped (topic : Topic)
  | ended (i : Invocation)

/-- Go on with what an option gave, or end in a usage error. -/
def next (o : Option Options) : State :=
  o.elim (.ended .usageError) .options

/-- Letters behind one dash. A letter that takes a value takes what follows it. -/
def readLetters (o : Options) : List Char → State
  | [] => .options o
  | c :: cs =>
    match Options.ofLetter? c with
    | none => .ended .usageError
    | some .help => .ended (.help .program)
    | some .version => .ended .version
    | some (.flag f) =>
      match o.giveFlag? f with
      | none => .ended .usageError
      | some o => readLetters o cs
    | some (.setting s) =>
      match cs with
      | [] => .pending o s
      | '=' :: value => next (o.giveSetting? s (String.ofList value))
      | value => next (o.giveSetting? s (String.ofList value))

/-- Name behind two dashes, and the value behind an equals sign. -/
def readLong (o : Options) (cs : List Char) : State :=
  let name := String.ofList (cs.takeWhile (· != '='))
  match Options.ofLongName? name, cs.dropWhile (· != '=') with
  | some .help, [] => .ended (.help .program)
  | some .version, [] => .ended .version
  | some (.flag f), [] => next (o.giveFlag? f)
  | some (.setting s), [] => .pending o s
  | some (.setting s), _ :: value => next (o.giveSetting? s (String.ofList value))
  | _, _ => .ended .usageError

/-- Argument that is no option: the name of a command, or a file. -/
def readWord (o : Options) (arg : String) : State :=
  match arg with
  | "compile" => .compile
  | "help" => .helpFor
  | arg =>
    if o.input.isSome then .ended .usageError else (o.giveInput? arg).elim .faulty .options

/-- Argument of the command that compiles a layout. -/
def readCompile (arg : String) : State :=
  match arg.toList with
  | ['-', '-'] => .compileText
  | ['-', '-', 'h', 'e', 'l', 'p'] | '-' :: 'h' :: _ => .ended (.help .compile)
  | '-' :: _ :: _ => .ended .usageError
  | _ => .compiled arg

def step (state : State) (arg : String) : State :=
  match state, arg.toList with
  | .options o, ['-', '-'] => .files o
  | .options o, '-' :: '-' :: cs => readLong o cs
  | .options o, '-' :: c :: cs => readLetters o (c :: cs)
  | .options o, _ => readWord o arg
  | .pending _ _, '-' :: _ :: _ => .ended .usageError
  | .pending o s, _ => (o.giveSetting? s arg).elim .faulty .options
  | .faulty, _ =>
    if arg = "help" then .helpFor
    else if arg = "compile" then .behindFault .compile
    else .ended .usageError
  | .files o, _ => (o.giveInput? arg).elim (.ended .usageError) .files
  | .compile, _ => readCompile arg
  | .compileText, _ => .compiledOnly arg
  | .compiled layout, ['-', '-'] => .compiledOnly layout
  | .compiled _, ['-', '-', 'h', 'e', 'l', 'p'] | .compiled _, '-' :: 'h' :: _ =>
    .ended (.help .compile)
  | .compiled _, _ | .compiledOnly _, _ | .helped _, _ => .ended .usageError
  | .behindFault s, _ =>
    match step s arg with
    | .ended i => .ended i
    | s => .behindFault s
  | .helpFor, _ =>
    if arg = "compile" then .helped .compile
    else if arg = "help" then .helped .help
    else .ended .usageError
  | .ended i, _ => .ended i

def finish : State → Invocation
  | .options o | .files o => .run o
  | .pending _ _ | .faulty | .compile | .compileText | .behindFault _ => .usageError
  | .compiled layout | .compiledOnly layout => .compile layout
  | .helpFor => .help .program
  | .helped topic => .help topic
  | .ended i => i

def read (args : List String) : Invocation :=
  finish (args.foldl step (.options .empty))

end CommandLine

namespace Options

/-- Number in decimal digits, with or without a plus sign, of at most 32 bits. -/
def readNumber? (s : String) : Option Nat :=
  let digits := match s.toList with
    | '+' :: ds => ds
    | ds => ds
  if digits ≠ [] ∧ digits.all Char.isDigit ∧ Decimal.value digits < 0x100000000 then
    some (Decimal.value digits)
  else none

def levelSetting (s : String) : LevelSetting :=
  (readNumber? s).elim (.name s) .number

/-- Settings of the command line in place of those of the configuration. -/
def override (o : Options) (c : Config) : Config where
  url := o.url <|> c.url
  layout := o.layout <|> c.layout
  timePattern := o.timePattern <|> c.timePattern
  grouping := if o.noGrouping then some false else c.grouping
  styles := c.styles
  level := (o.level.map levelSetting) <|> c.level
  logger := o.logger <|> c.logger
  support := if o.noStyle then some .unsupported else c.support

end Options

end Logline
