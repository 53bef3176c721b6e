import Logline.Proofs.Fields
import Logline.Proofs.Fill
/-!
Lines whose text takes part in the scan. If a text in front of a field is not inert, the placeholders
of a styled line and of the line without styles meet different values, and the two show different
texts. Which they show is told apart by one character, which no value shows and every style brings.
-/
namespace Logline

namespace Field
open Template

def slot (f : Field) : Item :=
  .placeholder f.placeholder.limited f.placeholder.source

/-- Items of a field without its style. If the text in front of it ends open, it takes the percent
sign of the placeholder. -/
def bare (f : Field) : List Item :=
  items f.lead ++ if endsOpen f.lead then chars f.placeholder.spec else [f.slot]

/-- Items of a field with a style. If the text in front of it ends open, it takes the percent sign of
the first mark. -/
def marked (f : Field) : List Item :=
  items f.lead ++
    if endsOpen f.lead then [.char 'c', f.slot, Part.mark] else [Part.mark, f.slot, Part.mark]

/-- Every field has a style. -/
def Styled (fs : List Field) : Prop :=
  ∀ f ∈ fs, f.style.isSome = true

theorem percent_notMem_spec {f : Field} (h : f.part.Sound) : '%' ∉ f.placeholder.spec := by
  apply Placeholder.notMem_spec (by decide) (by decide)
  intro hc
  have hp := h.1
  rw [← hc] at hp
  revert hp
  decide

theorem letter_notMem_spec {f : Field} (h : f.part.Sound) : 'c' ∉ f.placeholder.spec :=
  Placeholder.notMem_spec (by decide) (by decide) h.2.symm

theorem items_unstyled_append (f : Field) (h : f.part.Sound) (cs : List Char) :
    items (f.unstyled.message.template ++ cs) = f.bare ++ items cs := by
  rw [message, Message.template_append, List.append_assoc, unstyled, part, Part.message,
    Placeholder.source_eq, List.cons_append, items_append_percent, bare, List.append_assoc]
  cases endsOpen f.lead with
  | false => exact congrArg (items f.lead ++ ·) (items_source f.placeholder h.1 cs)
  | true => exact congrArg (items f.lead ++ ·) (items_text_append _ cs (percent_notMem_spec h))

theorem items_styled_append (f : Field) (h : f.part.Sound) (hstyled : f.style.isSome = true)
    (cs : List Char) : items (f.message.template ++ cs) = f.marked ++ items cs := by
  obtain ⟨css, hcss⟩ := Option.isSome_iff_exists.mp hstyled
  have hslot : items (f.placeholder.source ++ (['%', 'c'] ++ cs)) = f.slot :: Part.mark :: items cs := by
    rw [items_source f.placeholder h.1]
    exact congrArg _ (Part.items_mark cs)
  rw [message, Message.template_append, List.append_assoc, part, hcss, Part.message,
    List.cons_append, List.cons_append, items_append_percent, marked, List.append_assoc,
    List.append_assoc]
  cases endsOpen f.lead with
  | false =>
    rw [if_neg (by decide), if_neg (by decide), Part.items_mark, hslot]
    rfl
  | true =>
    rw [if_pos rfl, if_pos rfl, items_char 'c' _ (by decide), hslot]
    rfl

theorem items_messages_unstyled {fs : List Field} (h : ∀ f ∈ fs, f.part.Sound) (cs : List Char) :
    items ((messages (fs.map unstyled)).template ++ cs) = fs.flatMap bare ++ items cs := by
  induction fs with
  | nil => rfl
  | cons f fs ih =>
    rw [List.map_cons, messages_cons, Message.template_append, List.append_assoc,
      f.items_unstyled_append (h f (by simp)), ih fun g hg => h g (by simp [hg]),
      List.flatMap_cons, List.append_assoc]

theorem items_messages_styled {fs : List Field} (h : ∀ f ∈ fs, f.part.Sound)
    (hstyled : Styled fs) (cs : List Char) :
    items ((messages fs).template ++ cs) = fs.flatMap marked ++ items cs := by
  induction fs with
  | nil => rfl
  | cons f fs ih =>
    rw [messages_cons, Message.template_append, List.append_assoc,
      f.items_styled_append (h f (by simp)) (hstyled f (by simp)),
      ih (fun g hg => h g (by simp [hg])) (fun g hg => hstyled g (by simp [hg])),
      List.flatMap_cons, List.append_assoc]

theorem values_messages_unstyled (fs : List Field) :
    (messages (fs.map unstyled)).values = fs.map value := by
  induction fs with
  | nil => rfl
  | cons f fs ih => exact congrArg (f.value :: ·) ih

theorem length_values_messages {fs : List Field} (h : Styled fs) :
    (messages fs).values.length = 3 * fs.length := by
  induction fs with
  | nil => rfl
  | cons f fs ih =>
    obtain ⟨css, hcss⟩ := Option.isSome_iff_exists.mp (h f (by simp))
    have hrest := ih fun g hg => h g (by simp [hg])
    have hf : f.message.values.length = 3 := by
      rw [message, part, hcss]
      rfl
    rw [messages_cons, Message.values_append, List.length_append, hf, hrest, List.length_cons]
    omega

/-- A style brings two placeholders, whatever text stands in front of the field. -/
theorem holes_marked (f : Field) : holes f.marked = holes f.bare + 2 := by
  rw [marked, bare, holes_append, holes_append]
  cases endsOpen f.lead with
  | false => rfl
  | true =>
    rw [if_pos rfl, if_pos rfl, holes_chars]
    rfl

theorem holes_flatMap_marked (fs : List Field) :
    holes (fs.flatMap marked) = holes (fs.flatMap bare) + 2 * fs.length := by
  induction fs with
  | nil => rfl
  | cons f fs ih =>
    rw [List.flatMap_cons, List.flatMap_cons, holes_append, holes_append, holes_marked, ih,
      List.length_cons]
    omega

theorem fill_bare_unfilled (f : Field) (is : List Item) (vs : List Json)
    (h : vs.length < holes (is ++ f.bare)) :
    (Message.fill (is ++ f.bare) vs).getLast? = some f.placeholder.conversion := by
  rw [bare, ← List.append_assoc] at h ⊢
  cases hopen : endsOpen f.lead with
  | false =>
    rw [hopen, holes_append] at h
    obtain ⟨cs, hcs⟩ := f.placeholder.source_eq_append
    rw [if_neg (by decide), slot, Message.fill_unfilled _ _ _ _ (Nat.le_of_lt_succ h), hcs,
      ← List.append_assoc, List.getLast?_concat]
  | true =>
    obtain ⟨cs, hcs⟩ := f.placeholder.spec_eq_append
    rw [if_pos rfl, Message.fill_append, Message.fill_chars, hcs, ← List.append_assoc,
      List.getLast?_concat]

theorem fill_marked_unfilled (f : Field) (is : List Item) (vs : List Json)
    (h : vs.length < holes (is ++ f.marked)) :
    (Message.fill (is ++ f.marked) vs).getLast? = some 'c' := by
  have hmark : ∃ js, f.marked = js ++ [Part.mark] := by
    rw [marked]
    cases endsOpen f.lead with
    | false => exact ⟨items f.lead ++ [Part.mark, f.slot], by simp⟩
    | true => exact ⟨items f.lead ++ [.char 'c', f.slot], by simp⟩
  obtain ⟨js, hjs⟩ := hmark
  rw [hjs, ← List.append_assoc] at h ⊢
  rw [holes_append] at h
  rw [Part.mark, Message.fill_unfilled _ _ _ _ (Nat.le_of_lt_succ h), ← List.singleton_append,
    ← List.append_assoc, List.getLast?_concat]

/-- Where values run out, fields end with what the last placeholder is written with: the letter of
its own type, or the letter of the style. -/
theorem fill_ne_of_unfilled {fs : List Field} (hsound : ∀ f ∈ fs, f.part.Sound) {vs ws : List Json}
    (hvs : vs.length < holes (fs.flatMap bare)) (hws : ws.length < holes (fs.flatMap marked)) :
    Message.fill (fs.flatMap marked) ws ≠ Message.fill (fs.flatMap bare) vs := by
  rcases List.eq_nil_or_concat fs with rfl | ⟨front, f, hfs⟩
  · contradiction
  rw [List.concat_eq_append] at hfs
  subst hfs
  rw [List.flatMap_append, List.flatMap_singleton] at hvs hws ⊢
  rw [List.flatMap_append, List.flatMap_singleton]
  intro heq
  have hlast := f.fill_marked_unfilled _ ws hws
  rw [heq, f.fill_bare_unfilled _ vs hvs, Option.some.injEq] at hlast
  exact (hsound f (by simp)).2 hlast

theorem holes_bare (f : Field) (h : endsOpen f.lead = false) :
    holes f.bare = holes (items f.lead) + 1 := by
  rw [bare, holes_append, h]
  rfl

theorem length_le_holes {fs : List Field} (h : ∀ f ∈ fs, endsOpen f.lead = false) :
    fs.length ≤ holes (fs.flatMap bare) := by
  induction fs with
  | nil => exact Nat.le_refl _
  | cons f fs ih =>
    have hrest := ih fun g hg => h g (by simp [hg])
    have hf := f.holes_bare (h f (by simp))
    rw [List.flatMap_cons, holes_append, List.length_cons]
    omega

/-- If every field has its placeholder and there are no others, every text in front of a field is
inert. -/
theorem inert_of_holes_le {fs : List Field} (h : ∀ f ∈ fs, endsOpen f.lead = false)
    (hholes : holes (fs.flatMap bare) ≤ fs.length) : ∀ f ∈ fs, Inert f.lead := by
  induction fs with
  | nil => intro f hf; cases hf
  | cons f fs ih =>
    have hrest := length_le_holes fun g hg => h g (List.mem_cons_of_mem f hg)
    have hf := f.holes_bare (h f (by simp))
    rw [List.flatMap_cons, holes_append, List.length_cons] at hholes
    intro g hg
    rcases List.mem_cons.mp hg with rfl | hg
    · exact ⟨h g (by simp), by omega⟩
    · exact ih (fun g hg => h g (by simp [hg])) (by omega) g hg

theorem exists_endsOpen {fs : List Field} (hlead : ∃ f ∈ fs, ¬ Inert f.lead)
    (hholes : holes (fs.flatMap bare) ≤ fs.length) : ∃ f ∈ fs, endsOpen f.lead = true := by
  by_cases h : ∃ f ∈ fs, endsOpen f.lead = true
  · exact h
  · obtain ⟨f, hf, hinert⟩ := hlead
    have hclosed : ∀ g ∈ fs, endsOpen g.lead = false := by
      intro g hg
      exact Bool.eq_false_iff.mpr fun hopen => h ⟨g, hg, hopen⟩
    exact absurd (inert_of_holes_le hclosed hholes f hf) hinert

/-- The letter of the style shows where a text ends open, and never for the field alone. -/
theorem count_fill_marked {f : Field} (hsound : f.part.Sound) {vs : List Json}
    (hvs : Message.Lacks 'c' vs) (hlength : holes f.bare ≤ vs.length) (ws : List Json) :
    (Message.fill f.bare vs).count 'c' + (if endsOpen f.lead then 1 else 0) ≤
      (Message.fill f.marked ws).count 'c' := by
  rw [bare, holes_append] at hlength
  have hlead := hvs.count_fill_le (items f.lead) ws (by omega)
  rw [bare, marked, Message.fill_append, Message.fill_append, List.count_append,
    List.count_append]
  cases hopen : endsOpen f.lead with
  | false =>
    have hone : holes [f.slot] = 1 := rfl
    rw [hopen, if_neg (by decide), hone] at hlength
    have hrest := hvs.drop (holes (items f.lead))
    have hnonempty : 0 < (vs.drop (holes (items f.lead))).length := by
      rw [List.length_drop]
      omega
    rw [if_neg (by decide), if_neg (by decide), if_neg (by decide)]
    -- a value is left for the placeholder, which adds no letter then
    generalize vs.drop (holes (items f.lead)) = us at hrest hnonempty ⊢
    cases us with
    | nil => contradiction
    | cons u us =>
      rw [slot, Message.fill, Message.fill, List.append_nil, hrest.count_filled]
      omega
  | true =>
    rw [if_pos rfl, if_pos rfl, if_pos rfl, Message.fill_chars,
      List.count_eq_zero.mpr (letter_notMem_spec hsound), Message.fill, List.count_cons_self]
    omega

theorem count_fill_flatMap_marked {fs : List Field} (hsound : ∀ f ∈ fs, f.part.Sound)
    {vs : List Json} (hvs : Message.Lacks 'c' vs) (hlength : holes (fs.flatMap bare) ≤ vs.length)
    (ws : List Json) :
    (Message.fill (fs.flatMap bare) vs).count 'c' + fs.countP (endsOpen ·.lead) ≤
      (Message.fill (fs.flatMap marked) ws).count 'c' := by
  induction fs generalizing vs ws with
  | nil => exact Nat.le_refl _
  | cons f fs ih =>
    rw [List.flatMap_cons, holes_append] at hlength
    have hf := count_fill_marked (hsound f (by simp)) hvs (by omega) ws
    have hrest := ih (fun g hg => hsound g (by simp [hg])) (hvs.drop (holes f.bare))
      (by rw [List.length_drop]; omega) (ws.drop (holes f.marked))
    rw [List.flatMap_cons, List.flatMap_cons, Message.fill_append, Message.fill_append,
      List.count_append, List.count_append, List.countP_cons]
    omega

/-- Styles change the plain text of fields if a text in front of one is not inert, whatever text
follows the last one. -/
theorem toPlain_messages_ne {fs : List Field} (hsound : ∀ f ∈ fs, f.part.Sound)
    (hstyled : Styled fs) (hlacks : Message.Lacks 'c' (fs.map value))
    (hlead : ∃ f ∈ fs, ¬ Inert f.lead) (tail : List Char) :
    (messages fs ++ (⟨tail, []⟩ : Message)).toPlain ≠
      (messages (fs.map unstyled) ++ (⟨tail, []⟩ : Message)).toPlain := by
  have hws := length_values_messages hstyled
  have hholes := holes_flatMap_marked fs
  rw [Message.toPlain_text_append _ tail _ (items_messages_styled hsound hstyled tail),
    Message.toPlain_text_append _ tail _ (items_messages_unstyled hsound tail),
    values_messages_unstyled]
  generalize (messages fs).values = ws at hws
  have hvs : (fs.map value).length = fs.length := List.length_map value
  generalize fs.map value = vs at hlacks hvs
  by_cases hfilled : holes (fs.flatMap bare) ≤ vs.length
  · -- all placeholders of the fields have values, so some text ends open and shows the letter
    intro heq
    obtain ⟨f, hf, hopen⟩ := exists_endsOpen hlead (hvs ▸ hfilled)
    have hcount := count_fill_flatMap_marked hsound hlacks hfilled ws
    have hpos : 0 < fs.countP (endsOpen ·.lead) := List.countP_pos_iff.mpr ⟨f, hf, hopen⟩
    have hrest := hlacks.drop (holes (fs.flatMap bare))
    have htail := hrest.count_fill_le (items tail) (ws.drop (holes (fs.flatMap marked)))
      (by rw [List.length_drop, List.length_drop]; omega)
    have hleft := (hrest.drop (holes (items tail))).count_leftover (by decide)
    have heq := congrArg (List.count 'c') heq
    rw [List.count_append, List.count_append, List.count_append, List.count_append, hleft] at heq
    omega
  · -- a placeholder of the fields has no value, and then none of the text behind them has
    have hunfilled : vs.length < holes (fs.flatMap bare) := Nat.lt_of_not_le hfilled
    rw [List.drop_eq_nil_of_le (Nat.le_of_lt hunfilled),
      List.drop_eq_nil_of_le (show ws.length ≤ holes (fs.flatMap marked) by omega)]
    intro heq
    exact fill_ne_of_unfilled hsound hunfilled (by omega) (List.append_cancel_right heq)

end Field

end Logline
