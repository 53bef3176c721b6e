import Logline.Proofs.Grammar
import Mathlib.Data.List.Chain
import Mathlib.Tactic.MkIffOfInductiveProp
/-!
Writing layouts. Segments that could have come from a layout are written one after the other, each
directive with the letter of its type, and read back as they were. The letter ends the directive,
whatever stands behind it.
-/
namespace Logline

namespace Kind

/-- The letters that are types of their own. -/
def letters : List Char :=
  ['s', 'd', 'f', 'o', 'O']

/-- A letter is unknown if it is no other type's. -/
def Writable : Kind → Prop
  | .unknown c => c.isAlpha = true ∧ c ∉ letters
  | .string | .int | .float | .object | .inspect => True

instance : DecidablePred Writable
  | .unknown _ => inferInstanceAs (Decidable (_ ∧ _))
  | .string | .int | .float | .object | .inspect => isTrue trivial

variable {k : Kind}

theorem Writable.isAlpha_letter (h : k.Writable) : k.letter.isAlpha = true := by
  cases k with
  | unknown c => exact h.1
  | string | int | float | object | inspect => decide

theorem Writable.ofLetter_letter (h : k.Writable) : ofLetter k.letter = k := by
  cases k with
  | unknown c =>
    have hc := h.2
    simp only [letters, List.mem_cons, List.not_mem_nil, or_false, not_or] at hc
    obtain ⟨hs, hd, hf, ho, hO⟩ := hc
    rw [letter, ofLetter]
    · exact hs
    · exact hd
    · exact hf
    · exact ho
    · exact hO
  | string | int | float | object | inspect => rfl

end Kind

namespace Directive

/-- How a directive is written behind its key. -/
def spelling (d : Directive) : Spelling :=
  ⟨d.flag, (d.width.map Decimal.digits).getD [], d.precision.map Decimal.digits, some d.kind.letter⟩

/-- Directives that can be written. A blank is a flag in front of a width only, and a zero that
stands for the width would be taken for the flag. -/
@[mk_iff]
structure Writable (d : Directive) : Prop where
  key_ne_nil : d.key.toList ≠ []
  key : ')' ∉ d.key.toList
  flag : d.flag ∈ [none, some '-', some '+', some '0', some '#', some ' ']
  width : ∀ n ∈ d.width, n ≤ 1024
  precision : ∀ n ∈ d.precision, n ≤ 1024
  kind : d.kind.Writable
  blank : d.flag = some ' ' → d.width ≠ none
  zero : d.flag = none → d.width ≠ some 0

instance : DecidablePred Writable := fun d => decidable_of_iff _ (writable_iff d).symm

namespace Writable

variable {d : Directive} (h : d.Writable)

include h

theorem wellFormed_spelling : d.spelling.WellFormed where
  flag := by
    intro c hc
    change d.flag = some c at hc
    have hflag := h.flag
    simp only [hc, List.mem_cons, reduceCtorEq, Option.some.injEq, List.not_mem_nil, false_or,
      or_false] at hflag
    rcases hflag with rfl | rfl | rfl | rfl | rfl
    · exact .inl (by decide)
    · exact .inl (by decide)
    · exact .inl (by decide)
    · exact .inl (by decide)
    · obtain ⟨n, hn⟩ := Option.ne_none_iff_exists'.mp (h.blank hc)
      refine .inr ⟨rfl, ?_⟩
      rw [spelling, hn]
      exact Decimal.digits_ne_nil n
  zero := by
    intro hflag
    rw [spelling]
    cases hwidth : d.width with
    | none => exact nofun
    | some n =>
      apply Decimal.head?_digits
      rintro rfl
      exact h.zero hflag hwidth
  width := by
    intro c hc
    rw [spelling] at hc
    cases hwidth : d.width with
    | none =>
      rw [hwidth] at hc
      cases hc
    | some n =>
      rw [hwidth] at hc
      exact Decimal.isDigit_of_mem_digits hc
  precision := by
    intro run hrun
    obtain ⟨n, -, rfl⟩ := Option.map_eq_some_iff.mp hrun
    exact ⟨Decimal.digits_ne_nil n, fun c => Decimal.isDigit_of_mem_digits⟩
  letter := by
    rintro c hc
    obtain rfl := Option.some.inj hc
    exact h.kind.isAlpha_letter

theorem longest_spelling (rest : List Char) :
    d.spelling.Longest (d.spelling.text ++ rest) := by
  rw [Spelling.longest_iff, h.wellFormed_spelling.read_text nofun]

/-- The spelling of a directive stands for its parts. -/
theorem directive_spelling : d.spelling.directive d.key = d := by
  obtain ⟨key, flag, width, precision, kind⟩ := d
  have hwidth : Spelling.number ((width.map Decimal.digits).getD []) = width := by
    cases width with
    | none => rfl
    | some n => exact Spelling.number_digits (h.width n rfl)
  have hprecision : (precision.map Decimal.digits).bind Spelling.number = precision := by
    cases precision with
    | none => rfl
    | some n => exact Spelling.number_digits (h.precision n rfl)
  simp [Spelling.directive, spelling, hwidth, hprecision, h.kind.ofLetter_letter]

end Writable

end Directive

namespace Segment

/-- Text stands for itself, and a directive is written with its letter. -/
def source : Segment → List Char
  | .text t => t
  | .directive d => Layout.opener ++ (d.key.toList ++ ')' :: d.spelling.text)

def isText : Segment → Bool
  | .text _ => true
  | .directive _ => false

/-- Text that is not empty and holds no opener, or a directive that can be written. -/
def Writable : Segment → Prop
  | .text t => t ≠ [] ∧ ¬ Layout.opener <:+: t
  | .directive d => d.Writable

instance : DecidablePred Writable
  | .text _ => inferInstanceAs (Decidable (_ ∧ _))
  | .directive d => inferInstanceAs (Decidable d.Writable)

def lexeme : Segment → Layout.Lexeme
  | .text t => .text t
  | .directive d => .directive d.key.toList d.spelling

theorem source_lexeme (seg : Segment) : seg.lexeme.source = seg.source := by
  cases seg with
  | text t => rfl
  | directive d => rfl

theorem Writable.segment_lexeme {seg : Segment} (h : seg.Writable) : seg.lexeme.segment = seg := by
  cases seg with
  | text t => rfl
  | directive d =>
    rw [lexeme, Layout.Lexeme.segment, String.ofList_toList, Directive.Writable.directive_spelling h]

/-- Behind a text there is nothing or an opener; behind a directive there may be anything. -/
theorem Writable.before {seg : Segment} (h : seg.Writable) {rest : List Char}
    (hrest : seg.isText = true → rest = [] ∨ Layout.opener <+: rest) :
    seg.lexeme.Before rest := by
  cases seg with
  | text t => exact .text h.1 h.2 (hrest rfl)
  | directive d =>
    exact .directive (Directive.Writable.key_ne_nil h) (Directive.Writable.key h)
      (Directive.Writable.longest_spelling h rest)

end Segment

namespace Layout

/-- Segments that can be written one after the other: two texts would be one. -/
@[mk_iff]
structure Writable (segs : List Segment) : Prop where
  each : ∀ seg ∈ segs, seg.Writable
  apart : segs.IsChain fun seg next => seg.isText = true → next.isText = false

instance : DecidablePred Writable := fun segs => decidable_of_iff _ (writable_iff segs).symm

namespace Writable

variable {seg : Segment} {segs : List Segment}

theorem tail (h : Writable (seg :: segs)) : Writable segs where
  each := fun next hnext => h.each next (List.mem_cons_of_mem seg hnext)
  apart := h.apart.tail

/-- An opener follows a text, or nothing. -/
theorem source_tail (h : Writable (seg :: segs)) (htext : seg.isText = true) :
    segs.flatMap Segment.source = [] ∨ opener <+: segs.flatMap Segment.source := by
  cases segs with
  | nil => exact .inl rfl
  | cons next segs =>
    have hnext := (List.isChain_cons_cons.mp h.apart).1 htext
    cases next with
    | text t => cases hnext
    | directive d => exact .inr ⟨_, rfl⟩

/-- What is written reads as the segments that were written. -/
theorem reads (h : Writable segs) :
    Reads (segs.flatMap Segment.source) (segs.map Segment.lexeme) := by
  induction segs with
  | nil => exact .nil
  | cons seg segs ih =>
    have hbefore := (h.each seg List.mem_cons_self).before h.source_tail
    rw [List.flatMap_cons, ← seg.source_lexeme]
    exact .cons hbefore (ih h.tail)

end Writable

/-- Segments that are written are scanned as they were. -/
theorem segments_source {segs : List Segment} (h : Writable segs) :
    segments (segs.flatMap Segment.source) = segs := by
  rw [h.reads.segments_eq, List.map_map]
  exact (List.map_congr_left fun seg hseg => (h.each seg hseg).segment_lexeme).trans
    (List.map_id segs)

/-- Segments next to characters that a directive is made of. -/
def bordering : List Segment :=
  [.text ['1', '%'], .directive ⟨"a%(b", none, some 10, none, .string⟩,
    .directive ⟨"c", some '0', some 0, some 1024, .unknown 'q'⟩,
    .text ['7', '.', '2', ')', 'd', '%'],
    .directive ⟨" ", some ' ', some 3, none, .inspect⟩, .text ['(', 'd', ')', 's', '%']]

theorem segments_source_bordering :
    Writable bordering ∧ segments (bordering.flatMap Segment.source) = bordering :=
  ⟨by decide +kernel, segments_source (by decide +kernel)⟩

example : String.ofList (bordering.flatMap Segment.source) =
    "1%%(a%(b)10s%(c)00.1024q7.2)d%%( ) 3O(d)s%" := by decide +kernel

end Layout

end Logline
