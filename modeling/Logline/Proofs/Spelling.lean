import Logline.Directive
import Logline.Proofs.Decimal
/-!
How directives are written behind their keys. A spelling has up to four parts in a fixed order, and
what is read at the front of a text is the longest spelling that stands there. No two spellings have
the same text, so the parts are told by it.
-/
namespace Logline

/-- What stands behind the key of a directive: a flag, the digits of a width, the digits of a
precision, which stand behind a point, and the letter of a type. -/
structure Spelling where
  flag : Option Char
  width : List Char
  precision : Option (List Char)
  letter : Option Char
  deriving DecidableEq, Repr

namespace Spelling

/-- Characters that are a flag whatever follows them. -/
def flags : List Char :=
  ['-', '+', '0', '#']

/-- A blank is a flag only in front of a width. A zero in front of all other parts is a flag, so a
width without a flag does not begin with one. -/
structure WellFormed (s : Spelling) : Prop where
  flag : ∀ c ∈ s.flag, c ∈ flags ∨ c = ' ' ∧ s.width ≠ []
  zero : s.flag = none → s.width.head? ≠ some '0'
  width : ∀ c ∈ s.width, c.isDigit = true
  precision : ∀ run ∈ s.precision, run ≠ [] ∧ ∀ c ∈ run, c.isDigit = true
  letter : ∀ c ∈ s.letter, c.isAlpha = true

/-- Precision with its point, and the letter. -/
def ending (s : Spelling) : List Char :=
  (s.precision.map ('.' :: ·)).getD [] ++ s.letter.toList

def text (s : Spelling) : List Char :=
  s.flag.toList ++ (s.width ++ s.ending)

/-- No other spelling at the front of a text is longer. -/
structure Longest (s : Spelling) (cs : List Char) : Prop where
  wellFormed : s.WellFormed
  text_prefix : s.text <+: cs
  longest : ∀ t : Spelling, t.WellFormed → t.text <+: cs → t.text.length ≤ s.text.length

/-- Number that a run of digits stands for; none for an empty run or a number above 1024. -/
def number (run : List Char) : Option Nat :=
  if run ≠ [] ∧ Nat.ofDigitChars 10 run 0 ≤ 1024 then some (Nat.ofDigitChars 10 run 0) else none

/-- Directive with the given key; without a letter its type is that of text. -/
def directive (key : String) (s : Spelling) : Directive :=
  ⟨key, s.flag, number s.width, s.precision.bind number, (s.letter.map Kind.ofLetter).getD .string⟩

/-- Digits behind a point at the front, if there are any. -/
def readPoint (cs : List Char) : Option (List Char) × List Char :=
  match cs with
  | '.' :: rest =>
    let (run, rest) := Decimal.splitDigits rest
    if run = [] then (none, cs) else (some run, rest)
  | _ => (none, cs)

def readLetter (cs : List Char) : Option Char × List Char :=
  match cs with
  | c :: rest => if c.isAlpha then (some c, rest) else (none, cs)
  | [] => (none, [])

/-- Spelling at the front of a text, and what follows it. -/
def read (cs : List Char) : Spelling × List Char :=
  let (flag, cs) := Directive.readFlag cs
  let (width, cs) := Decimal.splitDigits cs
  let (precision, cs) := readPoint cs
  let (letter, cs) := readLetter cs
  (⟨flag, width, precision, letter⟩, cs)

theorem readPoint_point (rest : List Char) :
    readPoint ('.' :: rest) =
      if (Decimal.splitDigits rest).1 = [] then (none, '.' :: rest)
      else (some (Decimal.splitDigits rest).1, (Decimal.splitDigits rest).2) := rfl

theorem readPoint_of_head {cs : List Char} (h : cs.head? ≠ some '.') : readPoint cs = (none, cs) := by
  cases cs with
  | nil => rfl
  | cons c cs =>
    rw [List.head?_cons, ne_eq, Option.some.injEq] at h
    simp [readPoint, h]

theorem number_digits {n : Nat} (h : n ≤ 1024) : number (Decimal.digits n) = some n := by
  have hvalue : Nat.ofDigitChars 10 (Decimal.digits n) 0 = n := Nat.ofDigitChars_ten_toDigits
  rw [number, hvalue, if_pos ⟨Decimal.digits_ne_nil n, h⟩]

theorem number_eq_count? (run : List Char) : number run = Directive.count? run := by
  have hvalue : Nat.ofDigitChars 10 run 0 = Decimal.value run := rfl
  rw [number, Directive.count?, hvalue]
  by_cases hrun : run = []
  · simp [hrun]
  · simp only [hrun, ne_eq, not_false_eq_true, true_and, if_false]
    rfl

theorem readPrecision_eq (cs : List Char) :
    Directive.readPrecision cs = ((readPoint cs).1.bind number, (readPoint cs).2) := by
  cases cs with
  | nil => rfl
  | cons c rest =>
    by_cases hc : c = '.'
    · subst hc
      rw [readPoint_point, Directive.readPrecision]
      dsimp only
      split
      · rfl
      · rw [Option.bind_some, number_eq_count?]
    · rw [readPoint_of_head (by simpa using hc)]
      simp [Directive.readPrecision, hc]

theorem readKind_eq (cs : List Char) :
    Directive.readKind cs =
      (((readLetter cs).1.map Kind.ofLetter).getD .string, (readLetter cs).2) := by
  cases cs with
  | nil => rfl
  | cons c rest =>
    rw [Directive.readKind, readLetter]
    cases c.isAlpha with
    | false => rfl
    | true => rfl

theorem readFlag_of_mem {c : Char} (hc : c ∈ flags) (cs : List Char) :
    Directive.readFlag (c :: cs) = (some c, cs) := by
  simp only [flags, List.mem_cons, List.not_mem_nil, or_false] at hc
  rcases hc with rfl | rfl | rfl | rfl <;> rfl

theorem readFlag_blank {c : Char} (hc : c.isDigit = true) (cs : List Char) :
    Directive.readFlag (' ' :: c :: cs) = (some ' ', c :: cs) := by
  rw [Directive.readFlag, if_pos hc]

theorem readFlag_of_head {cs : List Char} (h : ∀ c ∈ cs.head?, ¬ (c ∈ flags ∨ c = ' ')) :
    Directive.readFlag cs = (none, cs) := by
  unfold Directive.readFlag
  split
  · exact absurd (by decide) (h '-' rfl)
  · exact absurd (by decide) (h '+' rfl)
  · exact absurd (by decide) (h '0' rfl)
  · exact absurd (by decide) (h '#' rfl)
  · exact absurd (by decide) (h ' ' rfl)
  · rfl

/-- Letters come behind the digits. -/
theorem isDigit_of_isAlpha {c : Char} (h : c.isAlpha = true) : c.isDigit = false := by
  have hletter : 65 ≤ c.toNat := by
    rcases Bool.or_eq_true_iff.mp h with hupper | hlower
    · have hfirst : 'A'.val ≤ c.val := (of_decide_eq_true hupper).1
      exact hfirst
    · have hfirst : 'a'.val ≤ c.val := of_decide_eq_true (Bool.and_eq_true_iff.mp hlower).1
      exact Nat.le_trans (by decide) hfirst
  rw [Bool.eq_false_iff]
  intro hdigit
  have hlast : c.val ≤ '9'.val := of_decide_eq_true (Bool.and_eq_true_iff.mp hdigit).2
  have hnine : c.toNat ≤ 57 := hlast
  omega

/-- The only digit that is a flag is zero, and neither a digit nor a letter is a blank. -/
theorem ne_zero_flag {c : Char} (hc : c ∈ flags ∨ c = ' ') :
    (c.isDigit = true → c = '0') ∧ c ≠ '.' ∧ c.isAlpha = false := by
  simp only [flags, List.mem_cons, List.not_mem_nil, or_false] at hc
  rcases hc with (rfl | rfl | rfl | rfl) | rfl <;> decide

/-- Text has the head of its front, unless the front is empty. -/
theorem head?_append_eq {front rest : List Char} (h : front = [] → rest = []) :
    (front ++ rest).head? = front.head? := by
  cases front with
  | nil => rw [h rfl, List.append_nil]
  | cons c front => rfl

namespace WellFormed

variable {s : Spelling} (h : s.WellFormed) {rest : List Char}

include h

theorem head_letter (hrest : s.letter = none → rest = []) :
    ∀ c ∈ (s.letter.toList ++ rest).head?, c.isAlpha = true := by
  cases hletter : s.letter with
  | none => simp [hrest hletter]
  | some c => simpa using h.letter c hletter

theorem head_ending : ∀ c ∈ s.ending.head?, c = '.' ∨ c.isAlpha = true := by
  intro c hc
  cases hprecision : s.precision with
  | none =>
    rw [ending, hprecision] at hc
    exact .inr (h.letter c (by simpa using hc))
  | some run =>
    rw [ending, hprecision] at hc
    exact .inl (Option.some.inj hc).symm

/-- The flag of a spelling is read as such, unless the spelling is empty. -/
theorem readFlag_text (hrest : s.text = [] → rest = []) :
    Directive.readFlag (s.text ++ rest) = (s.flag, s.width ++ (s.ending ++ rest)) := by
  cases hflag : s.flag with
  | some c =>
    rw [text, hflag, List.append_assoc, List.append_assoc]
    rcases h.flag c hflag with hc | ⟨rfl, hwidth⟩
    · exact readFlag_of_mem hc _
    · obtain ⟨d, ds, hds⟩ := List.exists_cons_of_ne_nil hwidth
      have hd := h.width d (by simp [hds])
      rw [hds]
      exact readFlag_blank hd _
  | none =>
    have htext : s.text = s.width ++ s.ending := by rw [text, hflag]; rfl
    rw [← List.append_assoc, ← htext]
    apply readFlag_of_head
    rw [head?_append_eq hrest, htext]
    intro c hc hflags
    obtain ⟨hzero, hpoint, hletter⟩ := ne_zero_flag hflags
    cases hwidth : s.width with
    | cons d ds =>
      rw [hwidth] at hc
      obtain rfl : d = c := Option.some.inj hc
      have hd := h.width d (by simp [hwidth])
      exact h.zero hflag (by rw [hwidth, List.head?_cons, hzero hd])
    | nil =>
      rw [hwidth] at hc
      rcases h.head_ending c hc with hc | hc
      · exact hpoint hc
      · rw [hletter] at hc
        contradiction

theorem readPoint_ending (hrest : s.letter = none → rest = []) :
    readPoint (s.ending ++ rest) = (s.precision, s.letter.toList ++ rest) := by
  have hletter := h.head_letter hrest
  rw [ending, List.append_assoc]
  cases hprecision : s.precision with
  | none =>
    apply readPoint_of_head
    intro hc
    exact absurd (hletter '.' hc) (by decide)
  | some run =>
    obtain ⟨hne, hdigits⟩ := h.precision run hprecision
    have hsplit := Decimal.splitDigits_run hdigits fun c hc => isDigit_of_isAlpha (hletter c hc)
    rw [Option.map_some, Option.getD_some, List.cons_append, readPoint_point, hsplit, if_neg hne]

theorem readLetter_letter (hrest : s.letter = none → rest = []) :
    readLetter (s.letter.toList ++ rest) = (s.letter, rest) := by
  cases hletter : s.letter with
  | none =>
    rw [hrest hletter]
    rfl
  | some c =>
    have hc := h.letter c hletter
    rw [Option.toList_some, List.singleton_append, readLetter, if_pos hc]

/-- The parts behind the width end it. -/
theorem splitDigits_ending (hrest : s.ending = [] → rest = []) :
    Decimal.splitDigits (s.width ++ (s.ending ++ rest)) = (s.width, s.ending ++ rest) := by
  apply Decimal.splitDigits_run h.width
  rw [head?_append_eq hrest]
  intro c hc
  rcases h.head_ending c hc with rfl | hc
  · decide
  · exact isDigit_of_isAlpha hc

/-- What is written is read, if nothing follows a spelling that ends without a letter. -/
theorem read_text (hrest : s.letter = none → rest = []) : read (s.text ++ rest) = (s, rest) := by
  have hending : s.ending = [] → rest = [] := by
    intro hnil
    rw [ending, List.append_eq_nil_iff] at hnil
    exact hrest (Option.toList_eq_nil_iff.mp hnil.2)
  have htext : s.text = [] → rest = [] := by
    intro hnil
    rw [text, List.append_eq_nil_iff, List.append_eq_nil_iff] at hnil
    exact hending hnil.2.2
  simp only [read, h.readFlag_text htext, h.splitDigits_ending hending, h.readPoint_ending hrest,
    h.readLetter_letter hrest]

end WellFormed

/-- Spellings with the same text are the same. -/
theorem WellFormed.eq_of_text_eq {s t : Spelling} (hs : s.WellFormed) (ht : t.WellFormed)
    (h : s.text = t.text) : s = t := by
  have hread : read (s.text ++ []) = (s, []) := hs.read_text fun _ => rfl
  rw [h, ht.read_text fun _ => rfl] at hread
  exact (Prod.mk.inj hread).1.symm

/-- A flag is read where one of the four stands, or a blank in front of a digit. -/
theorem readFlag_cases (cs : List Char) :
    (∃ c ∈ flags, ∃ rest, cs = c :: rest ∧ Directive.readFlag cs = (some c, rest)) ∨
    (∃ d rest, d.isDigit = true ∧ cs = ' ' :: d :: rest ∧
      Directive.readFlag cs = (some ' ', d :: rest)) ∨
    (cs.head? ≠ some '0' ∧ Directive.readFlag cs = (none, cs)) := by
  fun_cases Directive.readFlag cs with
  | case1 rest => exact .inl ⟨'-', by decide, rest, rfl, rfl⟩
  | case2 rest => exact .inl ⟨'+', by decide, rest, rfl, rfl⟩
  | case3 rest => exact .inl ⟨'0', by decide, rest, rfl, rfl⟩
  | case4 rest => exact .inl ⟨'#', by decide, rest, rfl, rfl⟩
  | case5 d rest hd => exact .inr (.inl ⟨d, rest, hd, rfl, rfl⟩)
  | case6 d rest hd => exact .inr (.inr ⟨by simp, rfl⟩)
  | case7 cs hminus hplus hzero =>
    refine .inr (.inr ⟨?_, rfl⟩)
    intro hhead
    obtain ⟨rest, hrest⟩ := List.head?_eq_some_iff.mp hhead
    exact hzero rest hrest

/-- A precision is read where a digit stands behind a point. -/
theorem readPoint_cases (cs : List Char) :
    (∃ rest, cs = '.' :: rest ∧ (Decimal.splitDigits rest).1 ≠ [] ∧
      readPoint cs = (some (Decimal.splitDigits rest).1, (Decimal.splitDigits rest).2)) ∨
    readPoint cs = (none, cs) := by
  by_cases h : cs.head? = some '.'
  · obtain ⟨rest, rfl⟩ := List.head?_eq_some_iff.mp h
    by_cases hrun : (Decimal.splitDigits rest).1 = []
    · exact .inr (by rw [readPoint_point, if_pos hrun])
    · exact .inl ⟨rest, rfl, hrun, by rw [readPoint_point, if_neg hrun]⟩
  · exact .inr (readPoint_of_head h)

theorem readLetter_cases (cs : List Char) :
    (∃ c rest, c.isAlpha = true ∧ cs = c :: rest ∧ readLetter cs = (some c, rest)) ∨
    readLetter cs = (none, cs) := by
  cases cs with
  | nil => exact .inr rfl
  | cons c rest =>
    by_cases hc : c.isAlpha = true
    · exact .inl ⟨c, rest, hc, rfl, by rw [readLetter, if_pos hc]⟩
    · exact .inr (by rw [readLetter, if_neg hc])

theorem text_readFlag (cs : List Char) :
    (Directive.readFlag cs).1.toList ++ (Directive.readFlag cs).2 = cs := by
  obtain ⟨c, -, rest, rfl, hread⟩ | ⟨d, rest, -, rfl, hread⟩ | ⟨-, hread⟩ := readFlag_cases cs
  · rw [hread]; rfl
  · rw [hread]; rfl
  · rw [hread]; rfl

theorem text_readPoint (cs : List Char) :
    ((readPoint cs).1.map ('.' :: ·)).getD [] ++ (readPoint cs).2 = cs := by
  obtain ⟨rest, rfl, -, hread⟩ | hread := readPoint_cases cs
  · rw [hread]
    exact congrArg _ (Decimal.splitDigits_append rest)
  · rw [hread]
    rfl

theorem text_readLetter (cs : List Char) : (readLetter cs).1.toList ++ (readLetter cs).2 = cs := by
  obtain ⟨c, rest, -, rfl, hread⟩ | hread := readLetter_cases cs
  · rw [hread]; rfl
  · rw [hread]; rfl

/-- The text of what is read is the front of what it is read from. -/
theorem text_read (cs : List Char) : (read cs).1.text ++ (read cs).2 = cs := by
  simp only [read, text, ending, List.append_assoc, text_readLetter, text_readPoint,
    Decimal.splitDigits_append, text_readFlag]

theorem length_readLetter (cs : List Char) : (readLetter cs).2.length ≤ cs.length :=
  List.IsSuffix.length_le ⟨_, text_readLetter cs⟩

theorem length_readEnding (cs : List Char) :
    (readLetter (readPoint cs).2).2.length ≤ cs.length :=
  Nat.le_trans (length_readLetter _) (List.IsSuffix.length_le ⟨_, text_readPoint cs⟩)

theorem length_read (cs : List Char) : (read cs).2.length ≤ cs.length :=
  List.IsSuffix.length_le ⟨_, text_read cs⟩

/-- At least what is written is read, whatever follows it. -/
theorem WellFormed.length_read_text {s : Spelling} (h : s.WellFormed) (rest : List Char) :
    (read (s.text ++ rest)).2.length ≤ rest.length := by
  cases hletter : s.letter with
  | some c =>
    have hread : read (s.text ++ rest) = (s, rest) := h.read_text (by simp [hletter])
    exact Nat.le_of_eq (congrArg (fun found => found.2.length) hread)
  | none =>
    by_cases htext : s.text = []
    · rw [htext]
      exact length_read rest
    · -- the flag is read, and then digits at the front of the rest may count for the last part
      have hflag : Directive.readFlag (s.text ++ rest) = (s.flag, s.width ++ (s.ending ++ rest)) :=
        h.readFlag_text (absurd · htext)
      have hrest := Decimal.length_splitDigits_rest rest
      cases hprecision : s.precision with
      | none =>
        have hending : s.ending = [] := by rw [ending, hprecision, hletter]; rfl
        rw [hending, List.nil_append] at hflag
        have hread : (read (s.text ++ rest)).2 =
            (readLetter (readPoint (Decimal.splitDigits rest).2).2).2 := by
          simp only [read, hflag, Decimal.splitDigits_run_append h.width]
        rw [hread]
        exact Nat.le_trans (length_readEnding _) hrest
      | some run =>
        obtain ⟨hne, hdigits⟩ := h.precision run hprecision
        have hending : s.ending = '.' :: run := by
          rw [ending, hprecision, hletter]
          exact List.append_nil _
        have hwidth : Decimal.splitDigits (s.width ++ (s.ending ++ rest)) =
            (s.width, s.ending ++ rest) := h.splitDigits_ending (by simp [hending])
        have hpoint : readPoint (s.ending ++ rest) =
            (some (run ++ (Decimal.splitDigits rest).1), (Decimal.splitDigits rest).2) := by
          rw [hending, List.cons_append, readPoint_point, Decimal.splitDigits_run_append hdigits,
            if_neg (List.append_ne_nil_of_left_ne_nil hne _)]
        have hread : (read (s.text ++ rest)).2 = (readLetter (Decimal.splitDigits rest).2).2 := by
          simp only [read, hflag, hwidth, hpoint]
        rw [hread]
        exact Nat.le_trans (length_readLetter _) hrest

theorem wellFormed_read (cs : List Char) : (read cs).1.WellFormed where
  flag := by
    intro c hc
    change (Directive.readFlag cs).1 = some c at hc
    change c ∈ flags ∨ c = ' ' ∧ (Decimal.splitDigits (Directive.readFlag cs).2).1 ≠ []
    obtain ⟨d, hd, rest, rfl, hread⟩ | ⟨d, rest, hd, rfl, hread⟩ | ⟨-, hread⟩ := readFlag_cases cs
    · rw [hread] at hc
      exact .inl (Option.some.inj hc ▸ hd)
    · rw [hread] at hc ⊢
      exact .inr ⟨(Option.some.inj hc).symm, by simp [Decimal.splitDigits, hd]⟩
    · rw [hread] at hc
      cases hc
  zero := by
    intro hnone
    change (Directive.readFlag cs).1 = none at hnone
    obtain ⟨d, -, rest, rfl, hread⟩ | ⟨d, rest, -, rfl, hread⟩ | ⟨hhead, hread⟩ := readFlag_cases cs
    · rw [hread] at hnone
      cases hnone
    · rw [hread] at hnone
      cases hnone
    · change (Decimal.splitDigits (Directive.readFlag cs).2).1.head? ≠ some '0'
      rw [hread]
      intro hzero
      obtain ⟨run, hrun⟩ := List.head?_eq_some_iff.mp hzero
      have hsplit := Decimal.splitDigits_append cs
      rw [hrun] at hsplit
      exact hhead (by rw [← hsplit]; rfl)
  width := fun c hc => Decimal.isDigit_of_mem_splitDigits hc
  precision := by
    intro run hrun
    obtain ⟨rest, -, hne, hread⟩ | hread :=
      readPoint_cases (Decimal.splitDigits (Directive.readFlag cs).2).2
    · obtain rfl := Option.some.inj ((congrArg Prod.fst hread).symm.trans hrun)
      exact ⟨hne, fun c hc => Decimal.isDigit_of_mem_splitDigits hc⟩
    · cases (congrArg Prod.fst hread).symm.trans hrun
  letter := by
    intro c hc
    obtain ⟨d, rest, hd, -, hread⟩ | hread :=
      readLetter_cases (readPoint (Decimal.splitDigits (Directive.readFlag cs).2).2).2
    · obtain rfl := Option.some.inj ((congrArg Prod.fst hread).symm.trans hc)
      exact hd
    · cases (congrArg Prod.fst hread).symm.trans hc

/-- The longest spelling at the front of a text is the one that is read. -/
theorem longest_iff (s : Spelling) (cs : List Char) : s.Longest cs ↔ s = (read cs).1 := by
  have hread : (read cs).1.text <+: cs := ⟨_, text_read cs⟩
  have hlongest (t : Spelling) (ht : t.WellFormed) (htext : t.text <+: cs) :
      t.text.length ≤ (read cs).1.text.length := by
    obtain ⟨rest, rfl⟩ := htext
    have hlength := ht.length_read_text rest
    have hcs := congrArg List.length (text_read (t.text ++ rest))
    rw [List.length_append, List.length_append] at hcs
    omega
  constructor
  · intro h
    have hle := h.longest _ (wellFormed_read cs) hread
    have hge := hlongest s h.wellFormed h.text_prefix
    have hfront := List.prefix_of_prefix_length_le h.text_prefix hread hge
    exact h.wellFormed.eq_of_text_eq (wellFormed_read cs)
      (hfront.eq_of_length (Nat.le_antisymm hge hle))
  · rintro rfl
    exact ⟨wellFormed_read cs, hread, hlongest⟩

/-- A directive is what its key and the spelling behind it stand for. -/
theorem directive_read (cs : List Char) :
    Directive.read cs = (Directive.readKey cs).map fun found =>
      ((read found.2).1.directive found.1, (read found.2).2) := by
  rw [Directive.read]
  cases Directive.readKey cs with
  | none => rfl
  | some found =>
    simp only [readPrecision_eq, readKind_eq, Directive.readWidth, ← number_eq_count?]
    rfl

end Spelling

end Logline
