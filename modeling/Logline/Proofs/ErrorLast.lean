import Logline.Proofs.BlankRecord
import Logline.Proofs.Fill
/-!
Errors at the end of a line. The error is appended to a line as one more placeholder with one more
value, and the template is scanned only then. Which value that placeholder meets, and whether it is
read as a placeholder at all, is decided by the text in front of it: the line ends with the error,
whatever the record, exactly if that text has a placeholder for each directive and no other, and
leaves no percent sign open.
-/
namespace Logline

namespace Message
open Template

/-- As many placeholders as values, and no percent sign that what comes next would be joined to. -/
def Balanced (m : Message) : Prop :=
  endsOpen m.template = false ∧ m.placeholders = m.values.length

/-- Placeholder of an error. -/
def errorSlot : Item :=
  .placeholder ⟨none, none, 'o'⟩ ['%', 'o']

/-- An open percent sign takes the one of the placeholder, whose letter is then text. -/
theorem items_appendError (m : Message) (e : Json) :
    items (m.appendError (some e)).template =
      items m.template ++ [if endsOpen m.template then .char 'o' else errorSlot] := by
  have hslot : items ['%', 'o'] = [errorSlot] := by
    have h := items_source ⟨none, none, 'o'⟩ (by decide) []
    rwa [List.append_nil, items_nil] at h
  have hletter : items ['o'] = [.char 'o'] := by
    rw [items_char 'o' [] (by decide), items_nil]
  rw [appendError, items_append_percent]
  cases endsOpen m.template with
  | false => exact congrArg (items m.template ++ ·) hslot
  | true => exact congrArg (items m.template ++ ·) hletter

theorem toPlain_appendError (m : Message) (e : Json) :
    let slot := if endsOpen m.template then .char 'o' else errorSlot
    let rest := (m.values ++ [e]).drop m.placeholders
    (m.appendError (some e)).toPlain =
      fill (items m.template) (m.values ++ [e]) ++
        (fill [slot] rest ++ leftover .plain .plain (rest.drop (holes [slot]))) := by
  intro slot rest
  have hplaceholders : (m.appendError (some e)).placeholders = m.placeholders + holes [slot] := by
    rw [placeholders, items_appendError, holes_append]
    rfl
  rw [toPlain_eq_fill, hplaceholders, items_appendError, fill_append, ← List.drop_drop,
    List.append_assoc]
  rfl

/-- Behind a balanced message the error is the one value left for its placeholder. -/
theorem Balanced.toPlain_appendError {m : Message} (h : m.Balanced) (e : Json) :
    (m.appendError (some e)).toPlain = m.toPlain ++ e.compact := by
  obtain ⟨hclosed, hplaceholders⟩ := h
  have hrest : (m.values ++ [e]).drop m.placeholders = [e] := by
    rw [hplaceholders, List.drop_left]
  have hslot : fill [errorSlot] [e] = e.compact := by
    rw [errorSlot, fill, if_neg (by decide), fill, List.append_nil, Placeholder.format_object]
  rw [m.toPlain_appendError, toPlain_eq_fill m, hclosed, if_neg Bool.false_ne_true, hrest, hslot,
    fill_values_append _ _ _ (Nat.le_of_eq hplaceholders), hplaceholders, List.drop_length]
  exact (congrArg _ (List.append_nil _)).trans (congrArg (· ++ _) (List.append_nil _).symm)

/-- Error whose JSON text ends with a quote, unlike the text that stands for it among the values left
over. -/
def textError : Json :=
  .str "x"

theorem getLast?_leftover_textError (front : List Char) (vs : List Json) :
    (front ++ leftover .plain .plain (vs ++ [textError])).getLast? = some 'x' := by
  have hlast : leftover .plain .plain (vs ++ [textError]) =
      leftover .plain .plain vs ++ [' '] ++ ['x'] := by
    rw [leftover, List.flatMap_append, List.append_assoc]
    rfl
  rw [hlast, ← List.append_assoc, List.getLast?_concat]

/-- If a message is not balanced, a line ends with the letter of the error's placeholder, for which
no value is left or which is text, or with a value left over. -/
theorem getLast?_toPlain_appendError {m : Message} (h : ¬ m.Balanced) :
    (m.appendError (some textError)).toPlain.getLast? = some 'o' ∨
      (m.appendError (some textError)).toPlain.getLast? = some 'x' := by
  rw [toPlain_appendError, ← List.append_assoc]
  by_cases hunfilled : m.values.length < m.placeholders
  · left
    rw [List.drop_eq_nil_of_le (by rw [List.length_append]; exact hunfilled), List.drop_nil]
    cases endsOpen m.template with
    | false =>
      rw [List.getLast?_append, List.getLast?_append]
      rfl
    | true =>
      rw [List.getLast?_append, List.getLast?_append]
      rfl
  · right
    have hle := Nat.le_of_not_lt hunfilled
    rw [List.drop_append_of_le_length hle]
    cases hopen : endsOpen m.template with
    | true => exact getLast?_leftover_textError _ _
    | false =>
      have hlt : 0 < (m.values.drop m.placeholders).length := by
        rw [List.length_drop]
        have hne : m.placeholders ≠ m.values.length := fun heq => h ⟨hopen, heq⟩
        omega
      obtain ⟨v, vs, hvs⟩ := List.exists_cons_of_length_pos hlt
      rw [hvs]
      exact getLast?_leftover_textError _ vs

/-- Only behind a balanced message does every error end the line. -/
theorem balanced_of_compact_suffix {m : Message}
    (h : textError.compact <:+ (m.appendError (some textError)).toPlain) : m.Balanced := by
  apply Classical.byContradiction
  intro hbalanced
  have hquote : (m.appendError (some textError)).toPlain.getLast? = some '"' := by
    obtain ⟨front, hfront⟩ := h
    have hcompact : textError.compact = ['"', 'x'] ++ ['"'] := by decide +kernel
    rw [← hfront, hcompact, ← List.append_assoc, List.getLast?_concat]
  rcases getLast?_toPlain_appendError hbalanced with hlast | hlast
  · rw [hquote] at hlast
    exact absurd hlast (by decide)
  · rw [hquote] at hlast
    exact absurd hlast (by decide)

end Message

/-- The template has one placeholder for each directive and no other, and leaves no percent sign
open at its end. -/
def CompiledLayout.Balanced (l : CompiledLayout) : Prop :=
  Template.endsOpen l.template = false ∧
    Template.holes (Template.items l.template) = l.directives.length

instance (l : CompiledLayout) : Decidable l.Balanced :=
  inferInstanceAs (Decidable (_ ∧ _))

namespace LineFormat

theorem balanced_body (f : LineFormat) (r : Record) :
    (f.body r).Balanced ↔ f.layout.Balanced := by
  rw [Message.Balanced, CompiledLayout.Balanced, body, List.length_map, Message.placeholders]

/-- Every line with an error ends with the JSON text of the error, behind what the line is without
it, if and only if the layout is balanced. -/
theorem compact_suffix_iff (layout timePattern : List Char) :
    ((∀ r : Record, ∀ e ∈ r.error,
        e.compact <:+ ((make layout timePattern).message r).toPlain) ↔
      (make layout timePattern).layout.Balanced) ∧
    ((∀ r : Record, ∀ e ∈ r.error, ((make layout timePattern).message r).toPlain =
        ((make layout timePattern).body r).toPlain ++ e.compact) ↔
      (make layout timePattern).layout.Balanced) := by
  have hsuffix (h : ∀ r : Record, ∀ e ∈ r.error,
      e.compact <:+ ((make layout timePattern).message r).toPlain) :
      (make layout timePattern).layout.Balanced := by
    have herror := h { Record.blank with error := some Message.textError } Message.textError rfl
    exact (balanced_body _ _).mp (Message.balanced_of_compact_suffix herror)
  have hline (h : (make layout timePattern).layout.Balanced) (r : Record) (e : Json)
      (he : e ∈ r.error) : ((make layout timePattern).message r).toPlain =
        ((make layout timePattern).body r).toPlain ++ e.compact := by
    have hbody := (balanced_body _ r).mpr h
    rw [message, Option.mem_def.mp he, hbody.toPlain_appendError]
  refine ⟨⟨hsuffix, fun h r e he => ?_⟩, fun h => hsuffix fun r e he => ?_, hline⟩
  · exact ⟨_, (hline h r e he).symm⟩
  · exact ⟨_, (h r e he).symm⟩

/-- A percent sign at the end of a layout takes that of the error's placeholder. The error is a value
left over then, and a text among those is not written as JSON. -/
theorem toPlain_message_percent_end :
    ((make "disk at 100%".toList []).message
        ⟨.epoch, .error, "app", "", some (.str "timed out"), []⟩).toPlain =
        "disk at 100%o timed out".toList ∧
      ¬ (Json.str "timed out").compact <:+ "disk at 100%o timed out".toList := by
  constructor
  · decide +kernel
  · decide +kernel

end LineFormat

end Logline
