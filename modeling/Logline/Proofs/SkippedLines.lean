import Logline.Program
import Logline.Proofs.Containment
import Logline.Proofs.Lines
import Logline.Proofs.StyleRun
/-!
Runs of the program with a console. What a run prints is told by the records that pass the filter,
and a line without such a record may be there or not. Where styles cannot be shown the console
remembers nothing, and an input can be cut at a line break.
-/
namespace Logline

/-- What an action puts on standard output. -/
def Action.printed : Action → List Char
  | .print text => text
  | .send _ | .skip _ => []

/-- Standard output of a run. -/
def Report.output (r : Report) : List Char :=
  r.actions.flatMap Action.printed

namespace Record

/-- Whether a value that holds a record says when the record was made. -/
def IsDated (v : Json) : Prop :=
  ∀ zone now r, ofJson zone now v = .ok r → (v.sorted.get? "created").isSome = true

/-- The clock is read for no record that says when it was made. -/
theorem toOption_ofJson_of_isDated {v : Json} (h : IsDated v) (zone : Time.Zone)
    (now later : Time.LocalTime) :
    (ofJson zone now v).toOption = (ofJson zone later v).toOption := by
  by_cases hcreated : (v.sorted.get? "created").isSome = true
  · rw [ofJson, ofJson]
    cases hv : v.sorted with
    | obj ms =>
      rw [hv, Json.get?] at hcreated
      obtain ⟨created, hlookup⟩ := Option.isSome_iff_exists.mp hcreated
      simp only [ofMembers, hlookup]
    | _ => rfl
  · have hnone (t : Time.LocalTime) : (ofJson zone t v).toOption = none := by
      cases ht : ofJson zone t v with
      | error e => rfl
      | ok r => exact absurd (h zone t r ht) hcreated
    rw [hnone, hnone]

end Record

namespace Filter

/-- Record of a line that is neither blank nor invalid, if it passes. -/
def admit? (f : Filter) (zone : Time.Zone) (now : Time.LocalTime) (line : List Char) :
    Option Record :=
  if Text.trim line = [] then none
  else (Json.read? line).bind fun v => (Record.ofJson zone now v).toOption.filter f.accepts

theorem filter_toOption_ok (f : Filter) (r : Record) :
    (Except.ok r : Except Error Record).toOption.filter f.accepts =
      if f.accepts r then some r else none := rfl

/-- Why a line is passed over. -/
inductive Skips (f : Filter) (zone : Time.Zone) (now : Time.LocalTime) (line : List Char) : Prop
  | blank : Text.trim line = [] → Skips f zone now line
  | malformed : Json.read? line = none → Skips f zone now line
  | undecodable {v : Json} {e : Error} :
    Json.read? line = some v → Record.ofJson zone now v = .error e → Skips f zone now line
  | rejected {v : Json} {r : Record} :
    Json.read? line = some v → Record.ofJson zone now v = .ok r → f.accepts r = false →
      Skips f zone now line

/-- A line has a record that passes, or else there is a reason to pass over it. -/
theorem admit?_eq_none_iff {f : Filter} {zone : Time.Zone} {now : Time.LocalTime}
    {line : List Char} : f.admit? zone now line = none ↔ f.Skips zone now line := by
  rw [admit?]
  constructor
  · intro h
    by_cases hblank : Text.trim line = []
    · exact .blank hblank
    · rw [if_neg hblank] at h
      cases hread : Json.read? line with
      | none => exact .malformed hread
      | some v =>
        rw [hread, Option.bind_some] at h
        cases hdecode : Record.ofJson zone now v with
        | error e => exact .undecodable hread hdecode
        | ok r =>
          rw [hdecode, filter_toOption_ok] at h
          by_cases hr : f.accepts r = true
          · rw [if_pos hr] at h
            cases h
          · exact .rejected hread hdecode (Bool.eq_false_iff.mpr hr)
  · intro h
    split
    · rfl
    · rename_i hblank
      cases h with
      | blank h => exact absurd h hblank
      | malformed hread => rw [hread, Option.bind_none]
      | undecodable hread hdecode =>
        rw [hread, Option.bind_some, hdecode]
        rfl
      | rejected hread hdecode hr =>
        rw [hread, Option.bind_some, hdecode, filter_toOption_ok, if_neg (Bool.eq_false_iff.mp hr)]

/-- Whether the record of a line, if there is one, says when it was made. -/
def IsDated (line : List Char) : Prop :=
  ∀ v ∈ Json.read? line, Record.IsDated v

theorem isDated_of_all {line : List Char}
    (h : (Json.read? line).all (fun v => (v.sorted.get? "created").isSome) = true) :
    IsDated line := by
  intro v hread zone now r hdecode
  rw [Option.mem_def.mp hread, Option.all_some] at h
  exact h

theorem admit?_of_isDated {line : List Char} (h : IsDated line) (f : Filter) (zone : Time.Zone)
    (now later : Time.LocalTime) : f.admit? zone now line = f.admit? zone later line := by
  rw [admit?, admit?]
  cases hread : Json.read? line with
  | none => rfl
  | some v =>
    rw [Option.bind_some, Option.bind_some,
      Record.toOption_ofJson_of_isDated (h v hread) zone now later]

end Filter

namespace Console

/-- Text of a record: its lines, each with its line break. -/
def text (c : Console) (r : Record) : List Char :=
  (c.lines r).1.flatMap (· ++ ['\n'])

/-- Text of records in order, with one console that goes from record to record. -/
def output (c : Console) : List Record → List Char
  | [] => []
  | r :: rs => c.text r ++ (c.lines r).2.output rs

/-- Records of a text that pass the filter. -/
def admitted (c : Console) (zone : Time.Zone) (now : Time.LocalTime) (text : List Char) :
    List Record :=
  (Text.lines text).filterMap (c.filter.admit? zone now)

end Console

namespace Session

/-- A record is printed as a whole if it passes the filter. -/
theorem handle_console (c : Console) (r : Record) :
    (Handler.console c).handle r =
      if c.filter.accepts r then ([.print (c.text r)], .console (c.lines r).2)
      else ([], .console c) := by
  have hrefused (ws : List (List Char)) : Device.perfect.refused? [] ws = none := by
    simp [Device.refused?, Device.perfect]
  have htext (ws : List (List Char)) : (Device.perfect.deliver ws).text = ws.flatten := by
    rw [Device.deliver, Device.take_eq, hrefused]
    simp [Delivery.text]
  rw [Handler.handle, Console.handle]
  by_cases h : c.filter.accepts r = true
  · rw [if_pos h, if_pos h, Console.text, ← Console.flatten_writes, ← htext]
    rfl
  · rw [if_neg h, if_neg h]
    rfl

/-- A line prints the text of its record if that passes the filter, and otherwise it prints nothing
and leaves the console as it is. -/
theorem handleLine_ofText (c : Console) (zone : Time.Zone) (now : Time.LocalTime) (number : Nat)
    (line : List Char) :
    let step := handleLine (.console c) number (.ofText zone now line)
    step.1.flatMap Action.printed = (c.filter.admit? zone now line).elim [] c.text ∧
      step.2 = .console ((c.filter.admit? zone now line).elim c fun r => (c.lines r).2) := by
  dsimp only
  rw [Line.ofText, Filter.admit?]
  by_cases hblank : Text.trim line = []
  · rw [if_pos hblank, if_pos hblank]
    exact ⟨rfl, rfl⟩
  · rw [if_neg hblank, if_neg hblank]
    cases hread : Json.read? line with
    | none => exact ⟨rfl, rfl⟩
    | some v =>
      rw [Option.bind_some]
      dsimp only
      cases hv : Record.ofJson zone now v with
      | error e => exact ⟨rfl, rfl⟩
      | ok r =>
        rw [Filter.filter_toOption_ok]
        dsimp only [handleLine]
        rw [handle_console]
        by_cases h : c.filter.accepts r = true
        · rw [if_pos h, if_pos h]
          exact ⟨List.append_nil _, rfl⟩
        · rw [if_neg h, if_neg h]
          exact ⟨rfl, rfl⟩

/-- A session prints the text of the records that pass the filter. -/
theorem run_console (c : Console) (zone : Time.Zone) (now : Time.LocalTime) (number : Nat)
    (lines : List (List Char)) :
    (run (.console c) number (lines.map (Line.ofText zone now))).flatMap Action.printed =
      c.output (lines.filterMap (c.filter.admit? zone now)) := by
  induction lines generalizing c number with
  | nil => rfl
  | cons line lines ih =>
    obtain ⟨hprinted, hconsole⟩ := handleLine_ofText c zone now number line
    rw [List.map_cons, run, List.filterMap_cons, List.flatMap_append, hprinted, hconsole]
    cases c.filter.admit? zone now line with
    | none => exact ih c (number + 1)
    | some r => exact congrArg _ (ih (c.lines r).2 (number + 1))

end Session

namespace StyledFormat

/-- Without support for styles a line leaves nothing behind. -/
theorem message_snd_of_unsupported {f : StyledFormat} (h : f.stylist.support = .unsupported)
    (r : Record) : (f.message r).2 = f := by
  rw [message_eq_parts_styled, Stylist.styles_unsupported h]

end StyledFormat

namespace Config

/-- The console of a configuration has the styles that the configuration allows, or else those that
can be shown. -/
theorem exists_formatter_of_handler {config : Config} {support : Support} {draws : Draws}
    {c : Console} (h : config.handler support draws = .ok (.console c)) :
    ∃ f, c.formatter = .styled f ∧ f.stylist.support = config.support.getD support := by
  rw [handler] at h
  cases hlevel : config.leastLevel with
  | error e =>
    rw [hlevel] at h
    cases h
  | ok level =>
    rw [hlevel] at h
    cases hurl : config.url with
    | none =>
      rw [hurl] at h
      cases h
      exact ⟨_, rfl, rfl⟩
    | some url =>
      rw [hurl] at h
      dsimp only [Bind.bind, Except.bind] at h
      cases hbase : Beacon.checkBase url <;> rw [hbase] at h <;> cases h

end Config

namespace Console

theorem admitted_of_isDated {text : List Char}
    (h : ∀ line ∈ Text.lines text, Filter.IsDated line) (c : Console) (zone : Time.Zone)
    (now later : Time.LocalTime) : c.admitted zone now text = c.admitted zone later text := by
  apply List.filterMap_congr
  intro line hline
  exact Filter.admit?_of_isDated (h line hline) c.filter zone now later

theorem admitted_append {front rest : List Char}
    (h : Text.lines (front ++ rest) = Text.lines front ++ Text.lines rest) (c : Console)
    (zone : Time.Zone) (now : Time.LocalTime) :
    c.admitted zone now (front ++ rest) =
      c.admitted zone now front ++ c.admitted zone now rest := by
  rw [admitted, h, List.filterMap_append, ← admitted, ← admitted]

theorem output_eq_flatMap {c : Console} (h : ∀ r, (c.lines r).2 = c) (rs : List Record) :
    c.output rs = rs.flatMap c.text := by
  induction rs with
  | nil => rfl
  | cons r rs ih => rw [output, h, ih, List.flatMap_cons]

/-- A console without support for styles remembers nothing. -/
theorem lines_snd_of_unsupported {c : Console} {f : StyledFormat}
    (hformatter : c.formatter = .styled f) (h : f.stylist.support = .unsupported) (r : Record) :
    (c.lines r).2 = c := by
  obtain ⟨formatter, filter, grouping, styling⟩ := c
  cases hformatter
  have hformat : ((Formatter.styled f).message r).2 = .styled f :=
    congrArg Formatter.styled (StyledFormat.message_snd_of_unsupported h r)
  rw [lines]
  dsimp only
  rw [hformat]

end Console

namespace Program

/-- What is to be read: the file of the command line, or else standard input. -/
def input (o : Options) (files : String → Source) (stdin : Source) : Source :=
  (o.input.map files).getD stdin

end Program

/-- A run of the program that, in a given place, builds a given console and reads a given text. -/
structure ConsoleRun (c : Console) (zone : Time.Zone) (text : List Char) where
  args : List String
  files : String → Source
  stdin : Source
  support : Support
  now : Time.LocalTime
  draws : Draws
  options : Options
  config : Config
  options_eq : CommandLine.read args = .run options
  config_eq : Program.config options files = .ok config
  console_eq : config.handler support draws = .ok (.console c)
  input_eq : Program.input options files stdin = .content (Text.toUtf8 text)

namespace ConsoleRun

variable {c : Console} {zone : Time.Zone} {text : List Char}

/-- Standard output of the run. -/
def output (x : ConsoleRun c zone text) : List Char :=
  (Program.run x.args x.files x.stdin x.support zone x.now x.draws).output

/-- A run prints the text of the records that pass the filter. -/
theorem output_eq (x : ConsoleRun c zone text) :
    x.output = c.output (c.admitted zone x.now text) := by
  have hhandler : Program.handler x.options x.files x.support x.draws = .ok (.console c) := by
    rw [Program.handler, x.config_eq]
    dsimp only [Bind.bind, Except.bind]
    rw [x.console_eq]
    rfl
  have hprocess (path : String) (source : Source) (h : source = .content (Text.toUtf8 text)) :
      (Program.process (.console c) zone x.now path source).output =
        c.output (c.admitted zone x.now text) := by
    rw [h, Program.process, Session.ofInput_toUtf8]
    exact Session.run_console ..
  have hinput := x.input_eq
  rw [output, Program.run, x.options_eq]
  dsimp only
  rw [hhandler]
  cases hpath : x.options.input with
  | none =>
    rw [Program.input, hpath] at hinput
    exact hprocess "" x.stdin hinput
  | some path =>
    rw [Program.input, hpath] at hinput
    exact hprocess path (x.files path) hinput

/-- What a run prints is told by the records that pass the filter, at whatever time they are read. A
line that is blank, malformed, undecodable or rejected may be left out. Where styles cannot be
shown, an input that is cut at a line break is printed part by part. -/
theorem output_admitted (x : ConsoleRun c zone text)
    (hdated : ∀ line ∈ Text.lines text, Filter.IsDated line) :
    (∀ now, x.output = c.output (c.admitted zone now text)) ∧
    (∀ front skipped rest, text = front ++ (skipped ++ rest) → Text.EndsLine front →
      Text.EndsLine skipped ∨ rest = [] →
      (∀ line ∈ Text.lines skipped, c.filter.Skips zone x.now line) →
      ∀ y : ConsoleRun c zone (front ++ rest), y.output = x.output) ∧
    (∀ front rest, text = front ++ rest → Text.EndsLine front →
      x.config.support.getD x.support = .unsupported →
      ∀ (y : ConsoleRun c zone front) (z : ConsoleRun c zone rest),
        x.output = y.output ++ z.output) := by
  refine ⟨fun now => ?_, ?_, ?_⟩
  · rw [output_eq, c.admitted_of_isDated hdated zone x.now now]
  · rintro front skipped rest rfl hfront hskipped hskips y
    have hlines := Text.lines_append hfront (skipped ++ rest)
    have hbehind : Text.lines (skipped ++ rest) = Text.lines skipped ++ Text.lines rest := by
      rcases hskipped with hskipped | rfl
      · exact Text.lines_append hskipped rest
      · rw [Text.lines_nil, List.append_nil, List.append_nil]
    have hnone : c.admitted zone x.now skipped = [] := by
      apply List.filterMap_eq_nil_iff.mpr
      intro line hline
      exact Filter.admit?_eq_none_iff.mpr (hskips line hline)
    rw [hlines, hbehind, List.forall_mem_append, List.forall_mem_append] at hdated
    rw [output_eq, output_eq, c.admitted_append hlines, c.admitted_append hbehind, hnone,
      List.nil_append, c.admitted_append (Text.lines_append hfront rest),
      c.admitted_of_isDated hdated.1 zone y.now x.now,
      c.admitted_of_isDated hdated.2.2 zone y.now x.now]
  · rintro front rest rfl hfront hsupport y z
    have hlines := Text.lines_append hfront rest
    rw [hlines, List.forall_mem_append] at hdated
    obtain ⟨f, hformatter, hf⟩ := Config.exists_formatter_of_handler x.console_eq
    have hmemory := Console.lines_snd_of_unsupported hformatter (hf.trans hsupport)
    have houtput := Console.output_eq_flatMap hmemory
    rw [output_eq, output_eq, output_eq, houtput, houtput, houtput, c.admitted_append hlines,
      List.flatMap_append, c.admitted_of_isDated hdated.1 zone x.now y.now,
      c.admitted_of_isDated hdated.2 zone x.now z.now]

/-- Run over standard input. -/
def streamed {args : List String} {options : Options} {config : Config} {draws : Draws}
    (hoptions : CommandLine.read args = .run options) (hinput : options.input = none)
    (hconfig : Program.config options (fun _ => .missing) = .ok config)
    (hconsole : config.handler .inline draws = .ok (.console c)) (zone : Time.Zone)
    (now : Time.LocalTime) (text : List Char) : ConsoleRun c zone text where
  args
  files _ := .missing
  stdin := .content (Text.toUtf8 text)
  support := .inline
  now
  draws
  options
  config
  options_eq := hoptions
  config_eq := hconfig
  console_eq := hconsole
  input_eq := by rw [Program.input, hinput]; rfl

/-- A blank line, half an object, a time that is none and a record below the level stand between two
records. -/
theorem output_admitted_errors :
    let front := "\x7b\"created\":0,\"level\":\"error\",\"message\":\"down\"\x7d\n".toList
    let skipped := " \n\x7b\n\x7b\"created\":\"x\"\x7d\n\x7b\"created\":1\x7d\n".toList
    let rest := "\x7b\"created\":2,\"level\":50,\"message\":\"up\"\x7d".toList
    ∃ (c : Console) (x : ConsoleRun c .utc (front ++ (skipped ++ rest)))
      (y : ConsoleRun c .utc (front ++ rest)) (z : ConsoleRun c .utc front)
      (w : ConsoleRun c .utc (skipped ++ rest)),
      (∀ line ∈ Text.lines (front ++ (skipped ++ rest)), Filter.IsDated line) ∧
      Text.EndsLine front ∧ Text.EndsLine skipped ∧
      (∀ line ∈ Text.lines skipped, c.filter.Skips .utc x.now line) ∧
      x.config.support.getD x.support = .unsupported ∧
      x.output = "down\nup\n".toList ∧ y.output = x.output ∧ x.output = z.output ++ w.output := by
  intro front skipped rest
  let options : Options := ⟨false, true, false, none, none, none, none, some "error", none, none⟩
  let config : Config :=
    ⟨none, none, none, none, none, some (.name "error"), none, some .unsupported⟩
  let c : Console :=
    ⟨.styled (.make [] [] (.ofSheet (.seeded 0) .empty .unsupported)), ⟨.error, none⟩, true,
      .plain⟩
  have hoptions : CommandLine.read ["--no-style", "--level", "error"] = .run options := by
    decide +kernel
  have hconfig : Program.config options (fun _ => .missing) = .ok config := rfl
  have hconsole : config.handler .inline (.seeded 0) = .ok (.console c) := rfl
  let run (text : List Char) : ConsoleRun c .utc text :=
    streamed hoptions rfl hconfig hconsole .utc .epoch text
  have hdated : ∀ line ∈ Text.lines (front ++ (skipped ++ rest)), Filter.IsDated line := by
    intro line hline
    have hall : (Text.lines (front ++ (skipped ++ rest))).all (fun line =>
        (Json.read? line).all fun v => (v.sorted.get? "created").isSome) = true := by
      decide +kernel
    exact Filter.isDated_of_all (List.all_eq_true.mp hall line hline)
  have hfront : Text.EndsLine front := by
    decide +kernel
  have hskipped : Text.EndsLine skipped := by
    decide +kernel
  have hskips : ∀ line ∈ Text.lines skipped, c.filter.Skips .utc .epoch line := by
    have hlines : Text.lines skipped =
        [[' '], ['\x7b'], "\x7b\"created\":\"x\"\x7d".toList, "\x7b\"created\":1\x7d".toList] := by
      decide +kernel
    rw [hlines]
    simp only [List.forall_mem_cons, List.not_mem_nil, false_imp_iff, implies_true, and_true]
    let low : Record := ⟨(Time.Instant.ofMillis 1000).inZone .utc, .info, "", "", none, []⟩
    exact ⟨.blank (by decide +kernel), .malformed (by decide +kernel),
      .undecodable (v := .obj [("created", .str "x")]) (by decide +kernel) rfl,
      .rejected (v := .obj [("created", .num (.int 1))]) (r := low) (by decide +kernel) rfl
        (by decide +kernel)⟩
  obtain ⟨hall, hleft, hcut⟩ := output_admitted (run (front ++ (skipped ++ rest))) hdated
  refine ⟨c, run _, run _, run _, run _, hdated, hfront, hskipped, hskips, rfl, ?_,
    hleft front skipped rest rfl hfront (.inl hskipped) hskips _, hcut front _ rfl hfront rfl _ _⟩
  rw [hall .epoch]
  decide +kernel

end ConsoleRun

end Logline
