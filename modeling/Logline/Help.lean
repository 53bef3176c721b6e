/-!
Help texts: what the program or a command of it is for, how it is called, and a line for each
command, argument and option.
-/
namespace Logline

/-- What help is about. -/
inductive Topic where
  | program
  | compile
  | help
  deriving DecidableEq, Repr

namespace Help

/-- A command, an argument or an option, and what it does. -/
structure Row where
  label : String
  purpose : String

/-- Rows under a heading; the purposes begin in one column. -/
def table (heading : String) (rows : List Row) : List String :=
  let width := (rows.map (·.label.length)).foldl max 0
  let line (r : Row) : String :=
    "  " ++ r.label ++ String.ofList (List.replicate (width - r.label.length) ' ') ++ "  "
      ++ r.purpose
  (heading ++ ":") :: rows.map line

/-- Purpose, usage and tables with an empty line between them. -/
def text (purpose usage : String) (tables : List (List String)) : String :=
  let parts := [purpose] :: ["Usage: " ++ usage] :: tables
  String.intercalate "\n\n" (parts.map (String.intercalate "\n")) ++ "\n"

def compilePurpose : String := "Show the console template and directives a template compiles to"

def helpPurpose : String := "Print this message or the help of the given subcommand(s)"

def helpOption : Row := ⟨"-h, --help", "Print help"⟩

def options : List Row :=
  [⟨"-v, --verbose", "Enable verbose debug output"⟩,
   ⟨"-c, --config <PATH>", "TOML config file"⟩,
   ⟨"    --format <TEMPLATE>", "Directive template (overrides config)"⟩,
   ⟨"    --time-format <FORMAT>", "Time format for %(asctime) (overrides config)"⟩,
   ⟨"    --url <URL>", "Beacon base URL; records are sent instead of printed"⟩,
   ⟨"    --level <LEVEL>", "Minimum level, by name or number"⟩,
   ⟨"    --logger <NAME>", "Only records from this logger and its dotted children"⟩,
   ⟨"    --no-style", "Disable styling regardless of the terminal"⟩,
   ⟨"    --no-grouping", "Print errors inline instead of as an indented block"⟩,
   helpOption,
   ⟨"-V, --version", "Print version"⟩]

def programText : String :=
  text "Styled console and beacon formatting for structured log records"
    "bk-log [OPTIONS] [FILE] [COMMAND]"
    [table "Commands" [⟨"compile", compilePurpose⟩, ⟨"help", helpPurpose⟩],
     table "Arguments" [⟨"[FILE]", "Input file with one JSON record per line (default: stdin)"⟩],
     table "Options" options]

def compileText : String :=
  text compilePurpose "bk-log compile <TEMPLATE>"
    [table "Arguments" [⟨"<TEMPLATE>", "Directive template"⟩], table "Options" [helpOption]]

def helpText : String :=
  text helpPurpose "bk-log help [COMMAND]..."
    [table "Arguments" [⟨"[COMMAND]...", "Print help for the subcommand(s)"⟩]]

end Help

/-- Help on a topic. -/
def Topic.text : Topic → String
  | .program => Help.programText
  | .compile => Help.compileText
  | .help => Help.helpText

end Logline
