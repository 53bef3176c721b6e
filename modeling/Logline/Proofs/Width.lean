import Logline.Proofs.Grammar
import Logline.Proofs.IntegerText
import Logline.Proofs.Query
/-!
Widths of directives. Text is filled up before it is substituted and numbers when they are formatted,
but in both ways a width only adds blanks to what is rendered without it, and it adds them once. For
times and for JSON neither the width nor the flag nor the precision counts.
-/
namespace Logline

theorem Spelling.le_of_number_eq {run : List Char} {n : Nat} (h : number run = some n) :
    n ≤ 1024 := by
  unfold number at h
  split at h
  · rename_i hle
    cases h
    exact hle.2
  · cases h

/-- Widths that are read are honored. -/
theorem Layout.width_le {layout : List Char} {d : Directive} (hd : d ∈ directives layout) {w : Nat}
    (hw : d.width = some w) : w ≤ 1024 := by
  obtain ⟨ls, hls⟩ := exists_reads layout
  rw [directives, hls.segments_eq, List.filterMap_map, List.mem_filterMap] at hd
  obtain ⟨l, -, hl⟩ := hd
  cases l with
  | text t => cases hl
  | directive key s =>
    cases hl
    exact Spelling.le_of_number_eq hw

namespace Placeholder

/-- A width puts blanks in front. -/
theorem format_eq_blanks_append (p : Placeholder) (v : Json) :
    p.format v = List.replicate (honored p.width - (p.body v).length) ' ' ++ p.body v := by
  rw [format, getD_capped, Decimal.padLeft]

theorem format_of_width {p : Placeholder} (h : p.width = none) (v : Json) :
    p.format v = p.body v := by
  rw [format_eq_blanks_append, h, honored, Nat.zero_sub, List.replicate_zero, List.nil_append]

end Placeholder

namespace Directive
open Placeholder (honored)

variable {d : Directive} {r : Record} {v : Json}

/-- What is rendered for a directive by itself: its placeholder with its value, and nothing for an
unknown type. -/
def rendered (d : Directive) (timePattern : List Char) (r : Record) : List Char :=
  match d.placeholder? with
  | none => []
  | some p => (Message.mk p.source [d.value timePattern r]).toPlain

theorem rendered_eq (d : Directive) (timePattern : List Char) (r : Record) :
    d.rendered timePattern r = d.text timePattern r := by
  rw [text_eq, rendered]
  cases h : d.placeholder? with
  | none => rfl
  | some p => exact toPlain_placeholder h _

/-- Text as far as the precision goes. -/
def cut (d : Directive) (cs : List Char) : List Char :=
  match d.precision with
  | some n => cs.take n
  | none => cs

theorem pad_eq (d : Directive) (cs : List Char) :
    d.pad cs =
      let blanks := List.replicate (honored d.width - (d.cut cs).length) ' '
      if d.flag = some '-' then d.cut cs ++ blanks else blanks ++ d.cut cs := by
  have hwidth : (d.width.filter (· ≤ maxCount)).getD 0 = honored d.width :=
    Placeholder.getD_capped d.width
  rw [pad, hwidth, alignsLeft]
  exact if_congr beq_iff_eq rfl rfl

/-- The field itself is substituted, as text if the type is text. -/
theorem value_of_truthy (htime : d.isTime = false) (hfield : r.field? d.key = some v)
    (htruthy : v.isTruthy = true) (timePattern : List Char) :
    d.value timePattern r =
      if d.kind = .string then .str (String.ofList (d.pad v.display)) else v := by
  have hkept : (r.field? d.key).filter Json.isTruthy = some v := by
    rw [hfield, Option.filter_some, if_pos htruthy]
  rw [value, htime, hkept]
  rfl

theorem rendered_string (htime : d.isTime = false) (hkind : d.kind = .string)
    (hfield : r.field? d.key = some v) (htruthy : v.isTruthy = true) (timePattern : List Char) :
    d.rendered timePattern r = d.pad v.display := by
  rw [rendered_eq, text, htime, value_of_truthy htime hfield htruthy, if_pos hkind, hkind]
  exact (Placeholder.format_of_width rfl _).trans String.toList_ofList

theorem rendered_number (htime : d.isTime = false) (hkind : d.kind = .int ∨ d.kind = .float)
    (hfield : r.field? d.key = some v) (htruthy : v.isTruthy = true) (timePattern : List Char) :
    d.rendered timePattern r = Placeholder.format ⟨d.width, d.precision, d.kind.letter⟩ v := by
  rw [rendered_eq, text, htime, value_of_truthy htime hfield htruthy]
  rcases hkind with hkind | hkind <;> rw [hkind] <;> rfl

/-- Without a width text is what the precision leaves of it. -/
theorem rendered_string_without_width (htime : d.isTime = false) (hkind : d.kind = .string)
    (hfield : r.field? d.key = some v) (htruthy : v.isTruthy = true) (timePattern : List Char) :
    ({ d with width := none } : Directive).rendered timePattern r = d.cut v.display := by
  have hrendered := rendered_string (d := { d with width := none }) htime hkind hfield htruthy
    timePattern
  rw [hrendered, pad_eq]
  simp only [honored, Nat.zero_sub, List.replicate_zero, List.append_nil, List.nil_append, ite_self]
  rfl

/-- For a time and for JSON the flag and the counts are passed over. -/
theorem rendered_eq_of_key_kind (d e : Directive) (hkey : d.key = e.key) (hkind : d.kind = e.kind)
    (h : d.isTime = true ∨ d.kind = .object ∨ d.kind = .inspect) (timePattern : List Char)
    (r : Record) : d.rendered timePattern r = e.rendered timePattern r := by
  have htime : e.isTime = d.isTime := by rw [isTime, isTime, hkey]
  have hvalue : d.value timePattern r = e.value timePattern r := by
    unfold value
    rw [htime, ← hkind, ← hkey]
    rcases h with h | h | h <;> simp [h]
  rw [rendered_eq, rendered_eq, text, text, hvalue, htime, ← hkind]
  rcases h with h | h | h <;> simp [h]

/-- A width adds blanks to what is rendered without it, up to the width: on the right for text with a
minus sign as its flag, and otherwise on the left. Text is cut to its precision before. A time and JSON
are rendered the same with any flag, width and precision. -/
theorem rendered_width {layout : List Char} {d : Directive} (hd : d ∈ Layout.directives layout)
    (timePattern : List Char) (r : Record) :
    (d.isTime = false → ∀ v, r.field? d.key = some v → v.isTruthy = true →
      let bare := ({ d with width := none } : Directive).rendered timePattern r
      (∀ w, d.width = some w → d.kind = .string ∨ d.kind = .int ∨ d.kind = .float →
        let blanks := List.replicate (w - bare.length) ' '
        d.rendered timePattern r =
          if d.kind = .string ∧ d.flag = some '-' then bare ++ blanks else blanks ++ bare) ∧
      (d.kind = .string → bare = match d.precision with
        | some n => v.display.take n
        | none => v.display)) ∧
    (d.isTime = true ∨ d.kind = .object ∨ d.kind = .inspect →
      ∀ (flag : Option Char) (width precision : Option Nat),
        ({ d with flag, width, precision } : Directive).rendered timePattern r =
          d.rendered timePattern r) := by
  refine ⟨fun htime v hfield htruthy => ⟨fun w hw hkind => ?_, fun hkind => ?_⟩, ?_⟩
  · have hhonored : honored d.width = w := by
      rw [hw, honored, if_pos (Layout.width_le hd hw)]
    rcases hkind with hkind | hkind
    · rw [rendered_string_without_width htime hkind hfield htruthy,
        rendered_string htime hkind hfield htruthy, pad_eq, hhonored]
      simp only [hkind, true_and]
    · have hbare := rendered_number (d := { d with width := none }) htime hkind hfield htruthy
        timePattern
      rw [Placeholder.format_of_width rfl] at hbare
      have hright : ¬ (d.kind = .string ∧ d.flag = some '-') := by
        rintro ⟨hstring, -⟩
        rcases hkind with hkind | hkind <;> cases hstring.symm.trans hkind
      dsimp only
      rw [if_neg hright, hbare, rendered_number htime hkind hfield htruthy,
        Placeholder.format_eq_blanks_append, hhonored]
      rfl
  · exact rendered_string_without_width htime hkind hfield htruthy timePattern
  · intro h flag width precision
    exact rendered_eq_of_key_kind { d with flag, width, precision } d rfl rfl h timePattern r

/-- Text of two characters that are longer in bytes, filled up on the right. -/
theorem rendered_width_left :
    let d : Directive := ⟨"name", some '-', some 5, some 2, .string⟩
    let r : Record := ⟨.epoch, .info, "äöü", "", none, []⟩
    d ∈ Layout.directives "%(name)-5.2s".toList ∧ d.isTime = false ∧
      r.field? d.key = some (.str "äöü") ∧ d.rendered [] r = "äö   ".toList := by
  intro d r
  have hd : d ∈ Layout.directives "%(name)-5.2s".toList := by decide +kernel
  obtain ⟨hwidth, hcut⟩ := (rendered_width hd [] r).1 rfl (.str "äöü") rfl rfl
  refine ⟨hd, rfl, rfl, (hwidth 5 rfl (.inl rfl)).trans ?_⟩
  rw [hcut rfl]
  decide

end Directive

end Logline
