import Logline.Proofs.BlankRecord
import Logline.Proofs.Unaligned
/-!
Styles in plain text. The plain text of styled lines is the same with and without support for styles
exactly for the layouts that are aligned. For any other layout there is a line that tells the two
apart: every field of it is red, and nothing is known of its record but the level.
-/
namespace Logline

namespace StyleSheet

/-- Sheet that shows the given fields red, whatever their values. -/
def red : List String → StyleSheet
  | [] => .empty
  | key :: keys => (red keys).withRule key wildcard [("color", "red")]

theorem lookup_red (keys : List String) (key : String) :
    (red keys).rules.lookup key =
      if key ∈ keys then some [(wildcard, [("color", "red")])] else none := by
  induction keys with
  | nil => rfl
  | cons k keys ih =>
    rw [red, withRule, Ordered.lookup_put]
    by_cases hk : key = k
    · subst hk
      rw [if_pos rfl, if_pos (by simp), ih]
      split <;> rfl
    · rw [if_neg hk, ih]
      simp [hk]

theorem shared_red (keys : List String) : (red keys).shared = none := by
  induction keys with
  | nil => rfl
  | cons key keys ih => exact ih

theorem rule?_red {keys : List String} {key : String} (h : key ∈ keys) (value : String) :
    (red keys).rule? key value = some [("color", "red")] := by
  rw [rule?, lookup_red, if_pos h]
  by_cases hv : value = wildcard
  · subst hv
    rfl
  · have hv : (value == wildcard) = false := beq_false_of_ne hv
    simp [List.lookup_cons, hv]

theorem style?_red {keys : List String} {key : String} (h : key ∈ keys) (colors : ColorStore)
    (value : String) :
    (Stylist.style? ⟨red keys, .inline, colors⟩ key value).1 = some "color:red;" := by
  unfold Stylist.style?
  simp only [rule?_red h, merged, shared_red]
  rfl

end StyleSheet

namespace Layout

/-- Sheet that shows every field of a layout red. -/
def red (layout : List Char) : StyleSheet :=
  .red ((directives layout).map Directive.key)

theorem key_mem_of_directive_mem {layout : List Char} {d : Directive}
    (h : .directive d ∈ segments layout) : d.key ∈ (directives layout).map Directive.key := by
  apply List.mem_map_of_mem
  rw [directives, List.mem_filterMap]
  exact ⟨.directive d, h, rfl⟩

theorem exists_not_inert {layout : List Char} (h : ¬ Aligned layout) :
    ∃ lead ∈ leads (segments layout), ¬ Template.Inert lead := by
  simp only [Aligned, Classical.not_forall] at h
  obtain ⟨lead, hmem, hinert⟩ := h
  exact ⟨lead, hmem, hinert⟩

end Layout

namespace StyledFormat

/-- Formatter after the records of earlier calls. -/
def after (f : StyledFormat) (rs : List Record) : StyledFormat :=
  rs.foldl (fun f r => (f.message r).2) f

theorem after_eq (f : StyledFormat) (rs : List Record) :
    (f.after rs).layout = f.layout ∧ (f.after rs).timePattern = f.timePattern := by
  induction rs generalizing f with
  | nil => exact ⟨rfl, rfl⟩
  | cons r rs ih =>
    have hmessage : (f.message r).2.layout = f.layout ∧
        (f.message r).2.timePattern = f.timePattern := by
      rw [message_eq]
      exact ⟨rfl, rfl⟩
    obtain ⟨hlayout, htime⟩ := ih (f.message r).2
    exact ⟨hlayout.trans hmessage.1, htime.trans hmessage.2⟩

theorem message_blank (f : StyledFormat) : (f.message .blank).1 =
    Part.messages (parts f.timePattern .blank f.stylist (Layout.segments f.layout)).1 := by
  rw [message_eq]
  change Part.messages (_ ++ []) = _
  rw [List.append_nil]

/-- In red lines of the blank record every field has a style, and no value shows its letter. -/
theorem field_red {layout : List Char} {colors : ColorStore} {p : Placeholder} {v : Json}
    {style : Option String} (h : .field p v style ∈
      (parts ['T'] .blank ⟨Layout.red layout, .inline, colors⟩ (Layout.segments layout)).1) :
    style.isSome = true ∧ ∀ q : Placeholder, 'c' ∉ q.format v := by
  obtain ⟨d, given, hd, -, rfl, rfl⟩ := exists_directive h
  constructor
  · rw [Layout.red, StyleSheet.style?_red (Layout.key_mem_of_directive_mem hd)]
    rfl
  · obtain ⟨cs, hvalue, hcs⟩ := d.value_blank
    rw [hvalue]
    exact fun q => q.notMem_format_letters hcs

/-- A layout that is not aligned has a line whose styles change its plain text. -/
theorem toPlain_red_ne {layout : List Char} (h : ¬ Layout.Aligned layout)
    (colors colors' : ColorStore) :
    (message ⟨layout, ['T'], ⟨Layout.red layout, .inline, colors⟩⟩ .blank).1.toPlain ≠
      (message ⟨layout, ['T'], ⟨Layout.red layout, .unsupported, colors'⟩⟩ .blank).1.toPlain := by
  have hunstyled := LineFormat.map_unstyled_parts ['T'] .blank
    ⟨Layout.red layout, .inline, colors⟩ (Layout.segments layout)
  have hbare := LineFormat.parts_unsupported (s := ⟨Layout.red layout, .unsupported, colors'⟩) rfl
    ['T'] .blank (Layout.segments layout)
  rw [message_blank, message_blank]
  dsimp only
  rw [hbare, ← hunstyled, Part.messages_eq_fields, Part.messages_eq_fields, Part.fields_unstyled]
  apply Field.toPlain_messages_ne
  · exact sound_fields _ _ _ _
  · intro f hf
    exact (field_red (Part.part_mem_of_mem_fields f hf)).1
  · intro v hv
    obtain ⟨f, hf, rfl⟩ := List.mem_map.mp hv
    exact (field_red (Part.part_mem_of_mem_fields f hf)).2
  · obtain ⟨lead, hmem, hinert⟩ := Layout.exists_not_inert h
    rw [← leads_fields ['T'] .blank ⟨Layout.red layout, .inline, colors⟩] at hmem
    obtain ⟨f, hf, rfl⟩ := List.mem_map.mp hmem
    exact ⟨f, hf, hinert⟩

/-- The plain text of all lines is the same with and without support for styles if and only if the
layout is aligned. -/
theorem toPlain_inline_iff (layout : List Char) :
    (∀ (timePattern : List Char) (sheet : StyleSheet) (draws : Draws) (history : List Record)
        (r : Record),
      (((make layout timePattern (.ofSheet draws sheet .inline)).after history).message r).1.toPlain =
        (((make layout timePattern (.ofSheet draws sheet .unsupported)).after history).message
          r).1.toPlain) ↔
      Layout.Aligned (orElseText layout defaultLayout) := by
  constructor
  · intro hsame
    by_cases h : Layout.Aligned (orElseText layout defaultLayout)
    · exact h
    · have htime : Time.strftime.checked (orElseText ['T'] Time.Pattern.default) = ['T'] := by
        decide +kernel
      have heq := hsame ['T'] (Layout.red (orElseText layout defaultLayout)) (.seeded 0) [] .blank
      rw [after, after, List.foldl_nil, List.foldl_nil, make, make, htime] at heq
      exact absurd heq (toPlain_red_ne h _ _)
  · intro h timePattern sheet draws history r
    have hinline := after_eq (make layout timePattern (.ofSheet draws sheet .inline)) history
    have hplain := after_eq (make layout timePattern (.ofSheet draws sheet .unsupported)) history
    rw [toPlain_aligned _ r (by rw [hinline.1]; exact h),
      toPlain_aligned _ r (by rw [hplain.1]; exact h), hinline.1, hinline.2, hplain.1, hplain.2]
    rfl

example : Layout.Aligned "100%% of %(name)s: %(message)s %d%".toList := by
  decide +kernel

/-- A percent sign in front of a field takes that of the style's placeholder: the style is shown in
place of the name, which is not shown at all. -/
theorem toPlain_inline_percent :
    ((make "%%(name)s".toList [] (.ofSheet (.seeded 0) (StyleSheet.empty.withRule "name" "*"
        [("color", "red")]) .inline)).message ⟨.epoch, .info, "app", "", none, []⟩).1.toPlain =
        "%ccolor:red; ".toList ∧
      ((make "%%(name)s".toList [] (.ofSheet (.seeded 0) (StyleSheet.empty.withRule "name" "*"
        [("color", "red")]) .unsupported)).message ⟨.epoch, .info, "app", "", none, []⟩).1.toPlain =
        "%s app".toList := by
  constructor
  · decide +kernel
  · decide +kernel

end StyledFormat

end Logline
