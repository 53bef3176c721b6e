import Logline.Proofs.Parts
/-!
What a message shows whatever follows it. A template is scanned in one piece, so it is a property of
its parts that they do not depend on what stands behind them; a message of such parts shows theirs.
-/
namespace Logline

namespace Message
open Template

/-- Number of placeholders in the template. -/
def placeholders (m : Message) : Nat :=
  holes (items m.template)

/-- Whatever follows the message, it shows the given cells, its placeholders consume its values and
no other, and the look behind it is the terminal's own. -/
structure Shows (m : Message) (cs : List Cell) : Prop where
  cells_append : ∀ rest : Message, (m ++ rest).cells = cs ++ rest.cells
  placeholders_append : ∀ rest : Message, (m ++ rest).placeholders = m.values.length + rest.placeholders

theorem Shows.empty : Shows ⟨[], []⟩ [] :=
  ⟨fun _ => rfl, fun rest => by simp⟩

theorem Shows.append {m n : Message} {a b : List Cell} (hm : Shows m a) (hn : Shows n b) :
    Shows (m ++ n) (a ++ b) := by
  constructor
  · intro rest
    rw [append_assoc, hm.cells_append, hn.cells_append, List.append_assoc]
  · intro rest
    rw [append_assoc, hm.placeholders_append, hn.placeholders_append, values_append, List.length_append,
      Nat.add_assoc]

theorem Shows.cells_eq {m : Message} {cs : List Cell} (h : Shows m cs) : m.cells = cs := by
  have hcells := h.cells_append ⟨[], []⟩
  rw [append_empty] at hcells
  rw [hcells, cells, items_nil, cellsOf, leftoverCells, List.flatMap_nil, List.append_nil]

theorem Shows.placeholders_eq {m : Message} {cs : List Cell} (h : Shows m cs) :
    m.placeholders = m.values.length := by
  have hplaceholders := h.placeholders_append ⟨[], []⟩
  rw [append_empty] at hplaceholders
  rw [hplaceholders, placeholders, items_nil]
  rfl

/-- A text whose items are its own characters shows itself. -/
theorem Shows.text (t : List Char) (h : ∀ cs, items (t ++ cs) = chars t ++ items cs) :
    Shows ⟨t, []⟩ (Look.plain.cells t) := by
  constructor
  · intro rest
    rw [cells, template_append, h, cellsOf_chars_append]
    rfl
  · intro rest
    rw [placeholders, template_append, h, holes_append, holes_chars]
    rfl

end Message

namespace Part
open Template

/-- The placeholder that sets the look of what follows it. -/
def styleMark : Placeholder := ⟨none, none, 'c'⟩

def mark : Item :=
  .placeholder styleMark ['%', 'c']

theorem items_mark (cs : List Char) : items ('%' :: 'c' :: cs) = mark :: items cs :=
  items_source styleMark (by decide) cs

theorem items_styled (p : Placeholder) (hp : p.conversion ∈ Placeholder.conversions)
    (cs : List Char) :
    items ('%' :: 'c' :: (p.source ++ ['%', 'c']) ++ cs) =
      mark :: .placeholder p.limited p.source :: mark :: items cs := by
  rw [List.cons_append, List.cons_append, items_mark, List.append_assoc, items_source p hp]
  exact congrArg _ (congrArg _ (items_mark cs))

/-- A sound part shows its cells, whatever follows. -/
theorem Sound.shows {q : Part} (h : q.Sound) : q.message.Shows q.cells := by
  cases q with
  | text t =>
    apply Message.Shows.text
    intro cs
    rcases h with rfl | ht
    · exact items_opener_append cs
    · exact items_text_append t cs ht
  | field p v style =>
    obtain ⟨hp, hc⟩ := h
    cases style with
    | none =>
      constructor
      · intro rest
        rw [Message.cells, message, Message.template_append, items_source p hp,
          Message.values_append, List.singleton_append, Message.cellsOf,
          Placeholder.limited_conversion, if_neg hc, Placeholder.format_limited]
        rfl
      · intro rest
        rw [Message.placeholders, message, Message.template_append, items_source p hp,
          holes_placeholder, Nat.add_comm]
        rfl
    | some css =>
      constructor
      · intro rest
        rw [Message.cells, message, Message.template_append, items_styled p hp,
          Message.values_append]
        simp only [List.cons_append, List.nil_append, Message.cellsOf, mark, styleMark,
          Placeholder.limited_conversion, if_true, if_neg hc, Placeholder.format_limited]
        rfl
      · intro rest
        rw [Message.placeholders, message, Message.template_append, items_styled p hp]
        simp only [mark, holes_placeholder, List.length_cons, List.length_nil, Message.placeholders]
        omega

theorem shows_messages {qs : List Part} (h : ∀ q ∈ qs, q.Sound) :
    (messages qs).Shows (qs.flatMap cells) := by
  induction qs with
  | nil => exact Message.Shows.empty
  | cons q qs ih =>
    rw [messages_cons, List.flatMap_cons]
    exact (h q (by simp)).shows.append (ih fun r hr => h r (by simp [hr]))

end Part

end Logline
