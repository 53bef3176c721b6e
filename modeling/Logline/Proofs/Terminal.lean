import Logline.Proofs.Cells
/-!
Terminals. A terminal shows the characters it is sent in its current look and keeps escape sequences
to itself; one that ends in `m` changes the look. Text painted in a look is shown in that look, and
leaves the terminal as it was at the start.
-/
namespace Logline

namespace Color

/-- Colors of the terminal's palette by their numbers. -/
def palette : List Color :=
  [.black, .darkRed, .darkGreen, .darkYellow, .darkBlue, .darkMagenta, .darkCyan, .grey,
   .darkGrey, .red, .green, .yellow, .blue, .magenta, .cyan, .white]

end Color

namespace Look

/-- Look after a sequence with the given parameters; one that is not understood changes nothing. -/
def obey (l : Look) : List Nat → Look
  | 0 :: ps => obey plain ps
  | 1 :: ps => obey { l with bold := true } ps
  | 3 :: ps => obey { l with italic := true } ps
  | 4 :: ps => obey { l with underline := true } ps
  | 38 :: 2 :: r :: g :: b :: ps =>
    obey { l with foreground := some (.rgb r.toUInt8 g.toUInt8 b.toUInt8) } ps
  | 38 :: 5 :: n :: ps => obey { l with foreground := Color.palette[n]? } ps
  | 39 :: ps => obey { l with foreground := none } ps
  | 48 :: 2 :: r :: g :: b :: ps =>
    obey { l with background := some (.rgb r.toUInt8 g.toUInt8 b.toUInt8) } ps
  | 48 :: 5 :: n :: ps => obey { l with background := Color.palette[n]? } ps
  | 49 :: ps => obey { l with background := none } ps
  | _ :: ps => obey l ps
  | [] => l

end Look

/-- Begin of every escape sequence. -/
def escapeChar : Char := '\x1b'

/-- What a terminal reads: text, the character behind an escape, or the parameters of a sequence. -/
inductive Terminal.Mode where
  | text
  | escape
  | parameters (done : List Nat) (current : Nat)
  deriving DecidableEq, Repr

structure Terminal where
  look : Look
  mode : Terminal.Mode
  deriving DecidableEq, Repr

namespace Terminal

/-- The terminal's own look, and no sequence begun. -/
def start : Terminal := ⟨.plain, .text⟩

/-- Cells that a character adds, and the terminal after it. -/
def step (t : Terminal) (c : Char) : List Cell × Terminal :=
  match t.mode with
  | .text => if c = escapeChar then ([], ⟨t.look, .escape⟩) else ([(c, t.look)], t)
  | .escape => ([], ⟨t.look, if c = '[' then .parameters [] 0 else .text⟩)
  | .parameters done n =>
    if c.isDigit then ([], ⟨t.look, .parameters done (10 * n + Decimal.digitValue c)⟩)
    else if c = ';' then ([], ⟨t.look, .parameters (done ++ [n]) 0⟩)
    else if c = 'm' then ([], ⟨t.look.obey (done ++ [n]), .text⟩)
    else ([], ⟨t.look, .text⟩)

/-- Cells that characters add in order, and the terminal after them. -/
def run (t : Terminal) : List Char → List Cell × Terminal
  | [] => ([], t)
  | c :: cs => ((t.step c).1 ++ (run (t.step c).2 cs).1, (run (t.step c).2 cs).2)

@[simp] theorem run_nil (t : Terminal) : t.run [] = ([], t) := rfl

theorem run_cons (t : Terminal) (c : Char) (cs : List Char) :
    t.run (c :: cs) = ((t.step c).1 ++ ((t.step c).2.run cs).1, ((t.step c).2.run cs).2) := rfl

/-- Text without an escape is shown as it is. -/
theorem run_text_append (l : Look) (cs rest : List Char) (h : escapeChar ∉ cs) :
    run ⟨l, .text⟩ (cs ++ rest) =
      (cs.map (fun c => (c, l)) ++ (run ⟨l, .text⟩ rest).1, (run ⟨l, .text⟩ rest).2) := by
  induction cs with
  | nil => rfl
  | cons c cs ih =>
    rw [List.mem_cons, not_or] at h
    have hstep : step ⟨l, .text⟩ c = ([(c, l)], ⟨l, .text⟩) := if_neg (Ne.symm h.1)
    rw [List.cons_append, run_cons, hstep, ih h.2]
    rfl

/-- Digits are read into the parameter that has been begun. -/
theorem run_digits_append (l : Look) (done : List Nat) (n : Nat) (ds rest : List Char)
    (h : ∀ d ∈ ds, d.isDigit = true) :
    run ⟨l, .parameters done n⟩ (ds ++ rest) =
      run ⟨l, .parameters done (ds.foldl (fun n c => 10 * n + Decimal.digitValue c) n)⟩ rest := by
  induction ds generalizing n with
  | nil => rfl
  | cons d ds ih =>
    have hstep : step ⟨l, .parameters done n⟩ d =
        ([], ⟨l, .parameters done (10 * n + Decimal.digitValue d)⟩) := if_pos (h d (by simp))
    rw [List.cons_append, run_cons, hstep]
    exact ih _ (fun e he => h e (by simp [he]))

theorem run_number_append (l : Look) (done : List Nat) (n : Nat) (rest : List Char) :
    run ⟨l, .parameters done 0⟩ (Decimal.digits n ++ rest) =
      run ⟨l, .parameters done n⟩ rest := by
  rw [run_digits_append l done 0 _ rest (fun _ h => Decimal.isDigit_of_mem_digits h)]
  change run ⟨l, .parameters done (Decimal.value (Decimal.digits n))⟩ rest = _
  rw [Decimal.value_digits]

theorem run_separator (l : Look) (done : List Nat) (n : Nat) (rest : List Char) :
    run ⟨l, .parameters done n⟩ (';' :: rest) = run ⟨l, .parameters (done ++ [n]) 0⟩ rest := rfl

theorem run_final (l : Look) (done : List Nat) (n : Nat) (rest : List Char) :
    run ⟨l, .parameters done n⟩ ('m' :: rest) = run ⟨l.obey (done ++ [n]), .text⟩ rest := rfl

/-- Parameters that are written with separators between them are read in order. -/
theorem run_parameters_append (l : Look) (done : List Nat) (p : Nat) (ps : List Nat)
    (rest : List Char) :
    run ⟨l, .parameters done 0⟩
        (List.intercalate [';'] ((p :: ps).map Decimal.digits) ++ 'm' :: rest) =
      run ⟨l.obey (done ++ p :: ps), .text⟩ rest := by
  induction ps generalizing done p with
  | nil =>
    rw [show List.intercalate [';'] ([p].map Decimal.digits) = Decimal.digits p by simp,
      run_number_append, run_final]
  | cons q ps ih =>
    rw [List.map_cons, List.map_cons, List.intercalate_cons_cons, List.append_assoc,
      List.append_assoc, run_number_append, List.singleton_append, run_separator,
      ← List.map_cons, ih]
    simp

/-- A complete sequence shows nothing and changes the look. -/
theorem run_escape_append (l : Look) (p : Nat) (ps : List Nat) (rest : List Char) :
    run ⟨l, .text⟩ (Look.escape (p :: ps) ++ rest) = run ⟨l.obey (p :: ps), .text⟩ rest := by
  rw [Look.escape, List.cons_append, List.cons_append, List.append_assoc]
  exact run_parameters_append l [] p ps rest

theorem run_select_foreground (l : Look) (c : Color) (rest : List Char) :
    run ⟨l, .text⟩ (Look.select 38 c ++ rest) =
      run ⟨{ l with foreground := (some c).filter (· ≠ .reset) }, .text⟩ rest := by
  cases c with
  | reset => exact run_escape_append l 39 [] rest
  | rgb r g b =>
    rw [Look.select, run_escape_append]
    simp [Look.obey, Option.filter]
  | _ => exact run_escape_append l 38 [5, _] rest

theorem run_select_background (l : Look) (c : Color) (rest : List Char) :
    run ⟨l, .text⟩ (Look.select 48 c ++ rest) =
      run ⟨{ l with background := (some c).filter (· ≠ .reset) }, .text⟩ rest := by
  cases c with
  | reset => exact run_escape_append l 49 [] rest
  | rgb r g b =>
    rw [Look.select, run_escape_append]
    simp [Look.obey, Option.filter]
  | _ => exact run_escape_append l 48 [5, _] rest

theorem run_flag_append (l : Look) (n : Nat) (flag : Bool) (rest : List Char) :
    run ⟨l, .text⟩ ((if flag then Look.escape [n] else []) ++ rest) =
      run ⟨if flag then l.obey [n] else l, .text⟩ rest := by
  cases flag with
  | false => rfl
  | true => exact run_escape_append l n [] rest

/-- The sequences in front of a text bring the terminal's own look into the one asked for. -/
theorem run_enter_append (l : Look) (rest : List Char) :
    run start (l.enter ++ rest) = run ⟨l.shown, .text⟩ rest := by
  obtain ⟨foreground, background, bold, italic, underline⟩ := l
  have hbackground (cs : List Char) :
      run start ((background.map (Look.select 48)).getD [] ++ cs) =
        run ⟨⟨none, background.filter (· ≠ .reset), false, false, false⟩, .text⟩ cs := by
    cases background with
    | none => rfl
    | some c => exact run_select_background .plain c cs
  have hforeground (b : Option Color) (cs : List Char) :
      run ⟨⟨none, b, false, false, false⟩, .text⟩
          ((foreground.map (Look.select 38)).getD [] ++ cs) =
        run ⟨⟨foreground.filter (· ≠ .reset), b, false, false, false⟩, .text⟩ cs := by
    cases foreground with
    | none => rfl
    | some c => exact run_select_foreground _ c cs
  simp only [Look.enter, List.append_assoc]
  rw [hbackground, hforeground, run_flag_append, run_flag_append, run_flag_append]
  cases bold <;> cases italic <;> cases underline <;> rfl

/-- The sequences behind a text bring the terminal's own look back. -/
theorem run_leave_append (l : Look) (rest : List Char) :
    run ⟨l.shown, .text⟩ (l.leave ++ rest) = run start rest := by
  rw [Look.leave]
  split
  · exact run_escape_append l.shown 0 [] rest
  · rename_i hattribute
    obtain ⟨foreground, background, bold, italic, underline⟩ := l
    simp only [Look.hasAttribute, Bool.or_eq_true, not_or, Bool.not_eq_true] at hattribute
    obtain ⟨⟨rfl, rfl⟩, rfl⟩ := hattribute
    rw [List.append_assoc, run_flag_append, run_flag_append]
    cases background <;> cases foreground <;> rfl

/-- A painted text is shown in its look and leaves the terminal's own. -/
theorem run_paint_append (l : Look) (cs rest : List Char) (h : escapeChar ∉ cs) :
    run start (l.paint cs ++ rest) =
      (l.cells cs ++ (run start rest).1, (run start rest).2) := by
  rw [Look.paint]
  split
  · rename_i hl
    rw [start, run_text_append .plain cs rest h]
    rcases hl with rfl | rfl
    · rfl
    · rfl
  · rw [List.append_assoc, List.append_assoc, run_enter_append, run_text_append _ _ _ h,
      run_leave_append]
    rfl

end Terminal

end Logline
