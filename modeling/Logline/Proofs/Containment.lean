import Logline.Beacon
import Logline.Console
/-!
Failures of consoles and beacons. Records are handled one after the other while writes, flushes and
sends may fail in any pattern. What becomes of a record is told by the record, by the earlier ones
that pass the filter, and by its own device or its own send. No failure reaches a later record.
-/
namespace Logline

/-! Inputs taken in turn, each giving an output and the state for the next one. -/
namespace Turns

variable {σ ι τ υ : Type} (step : σ → ι → τ × σ)

def outputs (s : σ) : List ι → List τ
  | [] => []
  | i :: is => (step s i).1 :: outputs (step s i).2 is

/-- State after all inputs. -/
def final (s : σ) (is : List ι) : σ :=
  is.foldl (fun s i => (step s i).2) s

theorem outputs_append (s : σ) (is js : List ι) :
    outputs step s (is ++ js) = outputs step s is ++ outputs step (final step s is) js := by
  induction is generalizing s with
  | nil => rfl
  | cons i is ih => exact congrArg ((step s i).1 :: ·) (ih _)

theorem length_outputs (s : σ) (is : List ι) : (outputs step s is).length = is.length := by
  induction is generalizing s with
  | nil => rfl
  | cons i is ih => exact congrArg (· + 1) (ih _)

theorem take_outputs (s : σ) (is js : List ι) :
    (outputs step s (is ++ js)).take is.length = outputs step s is := by
  rw [outputs_append, ← length_outputs step s is, List.take_left]

/-- The output of an input is told by the state that the inputs in front of it lead to. -/
theorem getElem?_outputs (s : σ) (before behind : List ι) (i : ι) :
    (outputs step s (before ++ i :: behind))[before.length]? =
      some (step (final step s before) i).1 := by
  rw [outputs_append, ← length_outputs step s before, List.getElem?_append_right (Nat.le_refl _),
    Nat.sub_self]
  rfl

/-- What agrees at every turn agrees over a run. -/
theorem map_outputs_congr {other : σ → ι → τ × σ} {g : τ → υ}
    (h : ∀ s i, g (step s i).1 = g (other s i).1 ∧ (step s i).2 = (other s i).2)
    (s : σ) (is : List ι) : (outputs step s is).map g = (outputs other s is).map g := by
  induction is generalizing s with
  | nil => rfl
  | cons i is ih => rw [outputs, outputs, List.map_cons, List.map_cons, (h s i).1, (h s i).2, ih]

end Turns

namespace Formatter

/-- Formatter after the records of earlier calls. -/
def after (f : Formatter) (rs : List Record) : Formatter :=
  rs.foldl (fun f r => (f.message r).2) f

theorem after_filter_cons (f : Formatter) (p : Record → Bool) (r : Record) (rs : List Record) :
    f.after ((r :: rs).filter p) = (if p r then (f.message r).2 else f).after (rs.filter p) := by
  by_cases h : p r = true <;> simp [after, h]

end Formatter

namespace Device

/-- Number of the first of some writes that a device refuses after those that it has kept. -/
def refused? (d : Device) (kept writes : List (List Char)) : Option Nat :=
  (List.range writes.length).find? fun i =>
    writes[i]?.any fun next => !d.accepts (kept ++ writes.take i) next

theorem refused?_cons (d : Device) (kept : List (List Char)) (next : List Char)
    (rest : List (List Char)) :
    d.refused? kept (next :: rest) =
      if d.accepts kept next then (d.refused? (kept ++ [next]) rest).map (· + 1) else some 0 := by
  rw [refused?, List.length_cons, List.range_succ_eq_map, List.find?_cons, List.find?_map]
  cases h : d.accepts kept next with
  | true => simp [h, refused?, Function.comp_def]
  | false => simp [h]

/-- A device keeps the writes in front of the first that it refuses. -/
theorem take_eq (d : Device) (kept writes : List (List Char)) :
    d.take kept writes =
      (kept ++ writes.take ((d.refused? kept writes).getD writes.length),
        (d.refused? kept writes).isNone) := by
  induction writes generalizing kept with
  | nil => simp [take, refused?]
  | cons next rest ih =>
    rw [take, refused?_cons]
    by_cases h : d.accepts kept next = true
    · rw [if_pos h, if_pos h, ih]
      cases d.refused? (kept ++ [next]) rest <;> simp
    · rw [if_neg h, if_neg h]
      simp

end Device

namespace Console

/-- Console after records: those that pass the filter have been formatted. -/
def after (c : Console) (rs : List Record) : Console :=
  { c with formatter := c.formatter.after (rs.filter c.filter.accepts) }

/-- What the handling of a record shows: whether the record is said to be handled, the text that the
device keeps, whether it is asked to flush, and the errors reported, each with the record. -/
structure Trace where
  handled : Bool
  text : List Char
  flushed : Bool
  reports : List (Error × Record)
  deriving DecidableEq

def trace (r : Record) : Option Delivery → Trace
  | none => ⟨false, [], false, []⟩
  | some d => ⟨true, d.text, d.outcome != .writeFailed, d.error?.toList.map (·, r)⟩

/-- Trace of a record and the device that it is written to, and the console for the next one. -/
def turn (c : Console) (step : Device × Record) : Trace × Console :=
  let (delivery, c) := c.handle step.1 step.2
  (trace step.2 delivery, c)

/-- Traces of records in order, each with the device that it is written to. -/
def run (c : Console) (steps : List (Device × Record)) : List Trace :=
  Turns.outputs turn c steps

/-- The device has no say in what the console is after a record. -/
theorem after_handle (c : Console) (d : Device) (r : Record) (rs : List Record) :
    (c.handle d r).2.after rs = c.after (r :: rs) := by
  rw [after, after, Formatter.after_filter_cons]
  by_cases h : c.filter.accepts r = true <;> simp [handle, lines, h]

theorem final_turn (c : Console) (steps : List (Device × Record)) :
    Turns.final turn c steps = c.after (steps.map Prod.snd) := by
  induction steps generalizing c with
  | nil => rfl
  | cons step steps ih =>
    rw [List.map_cons, ← c.after_handle step.1]
    exact ih _

theorem flatten_writes (lines : List (List Char)) :
    (writes lines).flatten = lines.flatMap (· ++ ['\n']) := by
  induction lines with
  | nil => rfl
  | cons line lines ih =>
    rw [writes, List.flatMap_cons, List.flatten_append, List.flatMap_cons, ← ih, ← writes]
    by_cases h : line = [] <;> simp [h]

/-- What the delivery of a record's lines shows. -/
theorem trace_deliver (d : Device) (r : Record) (ws : List (List Char)) :
    trace r (some (d.deliver ws)) =
      ⟨true, (ws.take ((d.refused? [] ws).getD ws.length)).flatten, (d.refused? [] ws).isNone,
        if (d.refused? [] ws).isNone && d.flushes then [] else [(.output, r)]⟩ := by
  rw [Device.deliver, Device.take_eq]
  cases d.refused? [] ws with
  | some n => rfl
  | none => cases h : d.flushes <;> rfl

theorem turn_eq (c : Console) (d : Device) (r : Record) :
    (c.turn (d, r)).1 =
      if c.filter.accepts r then trace r (some (d.deliver (writes (c.lines r).1)))
      else ⟨false, [], false, []⟩ := by
  rw [turn, handle]
  by_cases h : c.filter.accepts r = true
  · rw [if_pos h, if_pos h]
  · rw [if_neg h, if_neg h]
    rfl

/-- What the handling of a record shows, with others before and behind it. The record is handled if
and only if it passes the filter. The device keeps what is written in front of the first write that
it refuses, which is all lines with their line breaks if it refuses none; then, and only then, it is
asked to flush. If it refuses a write or does not flush, then that is reported once, and otherwise
nothing is. The lines are those of a console that knows of no devices. -/
theorem run_split (c : Console) (before behind : List (Device × Record)) (d : Device)
    (r : Record) :
    let lines := ((c.after (before.map Prod.snd)).lines r).1
    let ws := writes lines
    let refused := d.refused? [] ws
    ws.flatten = lines.flatMap (· ++ ['\n']) ∧
    (c.run (before ++ (d, r) :: behind)).length = before.length + 1 + behind.length ∧
    (c.run (before ++ (d, r) :: behind))[before.length]? = some (
      if c.filter.accepts r then
        ⟨true, (ws.take (refused.getD ws.length)).flatten, refused.isNone,
          if refused.isNone && d.flushes then [] else [(.output, r)]⟩
      else ⟨false, [], false, []⟩) := by
  refine ⟨flatten_writes _, ?_, ?_⟩
  · rw [run, Turns.length_outputs, List.length_append, List.length_cons]
    omega
  · rw [run, Turns.getElem?_outputs, final_turn, turn_eq, trace_deliver]
    rfl

end Console

namespace Beacon

/-- Beacon after records: those that pass the filter have been formatted. -/
def after (b : Beacon) (rs : List Record) : Beacon :=
  { b with formatter := b.formatter.after (rs.filter b.filter.accepts) }

/-- Query of the next record. -/
def query (b : Beacon) (r : Record) : List Char :=
  (b.formatter.message r).1.toPlain

/-- What the handling of a record shows: whether the record is said to be handled, the addresses
given to the sender, and the errors reported, each with the record. -/
structure Trace where
  handled : Bool
  sends : List String
  reports : List (Error × Record)
  deriving DecidableEq

def trace (r : Record) : Option Dispatch → Trace
  | none => ⟨false, [], []⟩
  | some d => ⟨true, d.sent.toList, d.error.toList.map (·, r)⟩

/-- Trace of a record whose send, if it comes to one, has the given result. -/
def turn (b : Beacon) (result : Except Error Unit) (r : Record) : Trace :=
  trace r (b.handle (fun _ => result) r).1

/-- Trace of a record whose send takes the result of the given number, the beacon for the next
record and the number of the result that is next. -/
def step (results : Nat → Except Error Unit) : Beacon × Nat → Record → Trace × Beacon × Nat
  | (b, number), r =>
    let t := b.turn (results number) r
    (t, (b.handle (fun _ => results number) r).2, number + t.sends.length)

/-- Traces of records in order. Every send takes the next of the sender's results, the first of
which has the given number. -/
def run (b : Beacon) (results : Nat → Except Error Unit) (number : Nat) (rs : List Record) :
    List Trace :=
  Turns.outputs (step results) (b, number) rs

/-- Addresses given to the sender in a run. -/
def sent (ts : List Trace) : List String :=
  ts.flatMap Trace.sends

/-- What is reported of a send. -/
def reports (r : Record) : Except Error Unit → List (Error × Record)
  | .ok () => []
  | .error e => [(e, r)]

/-- The sender has no say in what the beacon is after a record. -/
theorem after_handle (b : Beacon) (send : String → Except Error Unit) (r : Record)
    (rs : List Record) : (b.handle send r).2.after rs = b.after (r :: rs) := by
  rw [after, after, Formatter.after_filter_cons]
  by_cases h : b.filter.accepts r = true <;> simp [handle, h]

/-- A run leaves the beacon that formatted the records, and as many results are used as there were
sends. -/
theorem final_step (b : Beacon) (results : Nat → Except Error Unit) (number : Nat)
    (rs : List Record) :
    Turns.final (step results) (b, number) rs =
      (b.after rs, number + (sent (b.run results number rs)).length) := by
  induction rs generalizing b number with
  | nil => rfl
  | cons r rs ih =>
    have hrun : sent (b.run results number (r :: rs)) =
        (b.turn (results number) r).sends ++
          sent ((b.handle (fun _ => results number) r).2.run results
            (number + (b.turn (results number) r).sends.length) rs) := rfl
    rw [hrun, List.length_append, ← Nat.add_assoc, ← b.after_handle fun _ => results number]
    exact ih _ _

/-- A query is sent, and then the sender decides on a report, or it is reported as too long. -/
theorem trace_dispatch (base query : List Char) (send : String → Except Error Unit) (r : Record) :
    trace r (some (dispatch base query send)) =
      if (base ++ query).length ≤ 2048 then
        ⟨true, [String.ofList (base ++ query)], reports r (send (String.ofList (base ++ query)))⟩
      else ⟨true, [], [(.urlTooLong (base.length + query.length) 2048, r)]⟩ := by
  rw [List.length_append]
  by_cases h : base.length + query.length ≤ 2048
  · have hfits : address base query = .ok (String.ofList (base ++ query)) :=
      if_neg (Nat.not_lt.mpr h)
    rw [if_pos h, dispatch, hfits]
    dsimp only
    cases send (String.ofList (base ++ query)) <;> rfl
  · have hlong : address base query = .error (.urlTooLong (base.length + query.length) 2048) :=
      if_pos (Nat.not_le.mp h)
    rw [if_neg h, dispatch, hlong]
    rfl

theorem turn_eq (b : Beacon) (result : Except Error Unit) (r : Record) :
    b.turn result r =
      if b.filter.accepts r then
        if (b.base.toList ++ b.query r).length ≤ 2048 then
          ⟨true, [String.ofList (b.base.toList ++ b.query r)], reports r result⟩
        else ⟨true, [], [(.urlTooLong (b.base.toList.length + (b.query r).length) 2048, r)]⟩
      else ⟨false, [], []⟩ := by
  by_cases h : b.filter.accepts r = true
  · rw [turn, handle, if_pos h, if_pos h]
    exact trace_dispatch ..
  · rw [turn, handle, if_neg h, if_neg h, trace]

theorem sends_turn (b : Beacon) (result other : Except Error Unit) (r : Record) :
    (b.turn result r).sends = (b.turn other r).sends := by
  rw [turn_eq, turn_eq]
  split
  · split <;> rfl
  · rfl

/-- The sends of a run do not depend on their results. -/
theorem map_sends_run (b : Beacon) (results others : Nat → Except Error Unit) (number : Nat)
    (rs : List Record) :
    (b.run results number rs).map Trace.sends = (b.run others number rs).map Trace.sends := by
  refine Turns.map_outputs_congr _ (fun ⟨b, number⟩ r => ?_) _ _
  have hsends := sends_turn b (results number) (others number) r
  refine ⟨hsends, Prod.ext ?_ ?_⟩
  · by_cases h : b.filter.accepts r = true <;> simp [step, handle, h]
  · exact congrArg (number + List.length ·) hsends

/-- What the handling of a record shows, with others before and behind it. A record that the filter
rejects is not handled, and nothing is sent or reported. Any other is handled. If its address has at
most 2048 characters then it is sent once, and the error of the send, if there is one, is reported;
if the address is longer, nothing is sent and its length is reported. Records are handled in order
and each send has the result that is next, and no result changes what is sent. -/
theorem run_accounts (b : Beacon) (results : Nat → Except Error Unit) (before behind : List Record)
    (r : Record) :
    let ts := b.run results 0 (before ++ r :: behind)
    let query := (b.after before).query r
    let url := b.base.toList ++ query
    let number := (sent (b.run results 0 before)).length
    ts.length = before.length + 1 + behind.length ∧
    ts.take before.length = b.run results 0 before ∧
    ts[before.length]? = some (
      if b.filter.accepts r then
        if url.length ≤ 2048 then ⟨true, [String.ofList url], reports r (results number)⟩
        else ⟨true, [], [(.urlTooLong (b.base.toList.length + query.length) 2048, r)]⟩
      else ⟨false, [], []⟩) ∧
    ∀ others, (b.run others 0 (before ++ r :: behind)).map Trace.sends = ts.map Trace.sends := by
  intro ts query url number
  refine ⟨?_, Turns.take_outputs .., ?_, fun others => map_sends_run ..⟩
  · rw [show ts.length = _ from Turns.length_outputs .., List.length_append, List.length_cons]
    omega
  · have hat : ts[before.length]? = some ((b.after before).turn (results number) r) := by
      rw [show ts[before.length]? = _ from Turns.getElem?_outputs .., final_step, Nat.zero_add]
      rfl
    rw [hat, turn_eq]
    rfl

end Beacon

end Logline
