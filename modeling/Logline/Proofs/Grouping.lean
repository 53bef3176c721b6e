import Logline.Proofs.PrettyText
import Logline.Proofs.Query
/-!
Errors below their lines. A console takes the error that a formatter appended off again: what is left
is the message as it was before, and the lines below it are the error and nothing else. A query has
no error to take off, whatever characters it ends with.
-/
namespace Logline

namespace Message

/-- Whatever its template ends with, a message is found again in front of the error appended to it. -/
theorem splitError?_appendError (m : Message) (e : Json) :
    (m.appendError (some e)).splitError? = some (m, e) := by
  have hsuffix : ['%', 'o'].isSuffixOf (m.template ++ ['%', 'o']) = true :=
    List.isSuffixOf_iff_suffix.mpr (List.suffix_append m.template ['%', 'o'])
  rw [appendError, splitError?]
  dsimp only
  rw [if_pos hsuffix, List.getLast?_concat, List.dropLast_concat, List.length_append,
    List.length_cons, List.length_singleton, Nat.add_sub_cancel, List.take_left]
  rfl

end Message

namespace Console

theorem linesOf_appendError (c : Console) (hgrouping : c.grouping = true) (r : Record) {e : Json}
    (herror : r.error = some e) (m : Message) :
    c.linesOf r (m.appendError r.error) = m.render c.styling :: errorLines e := by
  rw [linesOf, hgrouping, herror, Option.isSome_some, Bool.and_self, if_pos rfl,
    Message.splitError?_appendError]

/-- Without grouping or without an error a message is shown as one line. -/
theorem linesOf_inline (c : Console) (r : Record) (m : Message)
    (h : (c.grouping && r.error.isSome) = false) : c.linesOf r m = [m.render c.styling] := by
  rw [linesOf, h, if_neg Bool.false_ne_true]

theorem linesOf_ofText (c : Console) (r : Record) (cs : List Char) :
    c.linesOf r ⟨Template.ofText cs, []⟩ = [cs] := by
  rw [linesOf, Message.splitError?_of_values_nil, ite_self, Message.render_ofText]

/-- With grouping, a record that has an error is shown as its line without the error, and below it
as the indented text of the error line by line, each line behind two blanks; no line holds a control
character, so joined they are that text. Without grouping, or without an error, it is shown as one
line, which is all of the message. A query is one line with grouping and without. -/
theorem lines_grouping (filter : Filter) (styling : Styling) (r : Record) (e : Json) :
    let failed := { r with error := some e }
    let below := (Text.lines e.pretty).map fun line => ' ' :: ' ' :: line
    (∀ f : LineFormat,
      (lines ⟨.line f, filter, true, styling⟩ failed).1 =
        (f.body failed).render styling :: below) ∧
    (∀ f : StyledFormat,
      (lines ⟨.styled f, filter, true, styling⟩ failed).1 =
        (f.body failed).1.render styling :: below) ∧
    (∀ line ∈ Text.lines e.pretty, ∀ c ∈ line, 32 ≤ c.toNat) ∧
    ['\n'].intercalate (Text.lines e.pretty) = e.pretty ∧
    (∀ f : Formatter,
      (lines ⟨f, filter, false, styling⟩ r).1 = [(f.message r).1.render styling]) ∧
    (∀ (f : Formatter) (grouping : Bool),
      (lines ⟨f, filter, grouping, styling⟩ { r with error := none }).1 =
        [(f.message { r with error := none }).1.render styling]) ∧
    ∀ (f : QueryFormat) (grouping : Bool),
      (lines ⟨.query f, filter, grouping, styling⟩ r).1 = [f.query r] := by
  intro failed below
  obtain ⟨hprintable, hjoined⟩ := e.block_pretty.intercalate_lines
  refine ⟨fun f => ?_, fun f => ?_, hprintable, hjoined, fun f => ?_, fun f grouping => ?_,
    fun f grouping => ?_⟩
  · exact linesOf_appendError _ rfl failed rfl (f.body failed)
  · exact linesOf_appendError _ rfl failed rfl (f.body failed).1
  · exact linesOf_inline ⟨f, filter, false, styling⟩ r _ rfl
  · exact linesOf_inline ⟨f, filter, grouping, styling⟩ _ _ (Bool.and_false _)
  · exact linesOf_ofText _ r (f.query r)

example : (lines ⟨.line (.make "%(message)%".toList []), ⟨.notSet, none⟩, true, .plain⟩
    ⟨.epoch, .error, "app", "failed", some (.obj [("at\r\n", .num (.int 7))]), []⟩).1 =
      ["failed%".toList, "  \x7b".toList, "    \"at\\r\\n\": 7".toList, "  \x7d".toList] := by
  decide +kernel

end Console

end Logline
