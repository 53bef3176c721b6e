import Logline.Proofs.Fill
import Mathlib.Data.List.Infix
/-!
Templates put together. Two templates behind one another are scanned as if each stood alone, unless
the first ends in a placeholder that has no letter yet. Behind a message with a value for each of its
placeholders another message then shows what it shows by itself.
-/
namespace Logline

namespace Template

/-- A percent sign with what may stand between it and the letter of a placeholder: digits, and then
perhaps a point and more digits. -/
def Unfinished (cs : List Char) : Prop :=
  ∃ width rest, cs = '%' :: (width ++ rest) ∧ (∀ d ∈ width, d.isDigit = true) ∧
    (rest = [] ∨ ∃ precision, rest = '.' :: precision ∧ ∀ d ∈ precision, d.isDigit = true)

/-- Nothing is left behind the counts of an unfinished placeholder. -/
theorem unfinished_iff (cs : List Char) :
    Unfinished ('%' :: cs) ↔ (Placeholder.readPrecision (Directive.readWidth cs).2).2 = [] := by
  constructor
  · rintro ⟨width, rest, heq, hwidth, hrest⟩
    obtain rfl : cs = width ++ rest := List.cons.inj heq |>.2
    rcases hrest with rfl | ⟨precision, rfl, hprecision⟩
    · rw [List.append_nil, Directive.readWidth, Decimal.splitDigits_digits hwidth]
      rfl
    · have hsplit := Decimal.splitDigits_run_cons width '.' precision hwidth (by decide)
      rw [Directive.readWidth, hsplit]
      simp only [Placeholder.readPrecision, Decimal.splitDigits_digits hprecision]
  · intro h
    refine ⟨(Decimal.splitDigits cs).1, (Directive.readWidth cs).2, ?_,
      fun _ hd => Decimal.isDigit_of_mem_splitDigits hd, ?_⟩
    · exact congrArg _ (Decimal.splitDigits_append cs).symm
    · cases hrest : (Directive.readWidth cs).2 with
      | nil => exact .inl rfl
      | cons c tail =>
        right
        rw [hrest] at h
        by_cases hc : c = '.'
        · subst hc
          have hdigits := Decimal.splitDigits_append tail
          simp only [Placeholder.readPrecision] at h
          rw [h, List.append_nil] at hdigits
          exact ⟨tail, rfl, fun d hd => Decimal.isDigit_of_mem_splitDigits (hdigits.symm ▸ hd)⟩
        · simp [Placeholder.readPrecision, hc] at h

instance : DecidablePred Unfinished
  | [] => .isFalse fun ⟨_, _, h, _⟩ => List.cons_ne_nil _ _ h.symm
  | c :: cs =>
    if hc : c = '%' then decidable_of_iff _ (hc ▸ (unfinished_iff cs).symm)
    else .isFalse fun ⟨_, _, h, _⟩ => hc (List.cons.inj h).1

end Template

namespace Placeholder
open Template (Unfinished unfinished_iff)

theorem readPrecision_append {cs : List Char} (h : (readPrecision cs).2 ≠ []) (rest : List Char) :
    readPrecision (cs ++ rest) = ((readPrecision cs).1, (readPrecision cs).2 ++ rest) := by
  cases cs with
  | nil => exact absurd rfl h
  | cons c cs =>
    by_cases hc : c = '.'
    · subst hc
      simp only [readPrecision] at h
      simp only [List.cons_append, readPrecision, Decimal.splitDigits_append_of_rest h rest]
    · simp [readPrecision, hc]

/-- Text that is no unfinished placeholder is read without regard to what follows it. -/
theorem read_append {cs : List Char} (h : ¬ Unfinished ('%' :: cs)) (rest : List Char) :
    read (cs ++ rest) = (read cs).map fun q => (q.1, q.2 ++ rest) := by
  rw [unfinished_iff] at h
  have hcounts : (Directive.readWidth cs).2 ≠ [] := fun hnil => h (by rw [hnil]; rfl)
  have hwidth : Directive.readWidth (cs ++ rest) =
      ((Directive.readWidth cs).1, (Directive.readWidth cs).2 ++ rest) := by
    simp only [Directive.readWidth, Decimal.splitDigits_append_of_rest hcounts rest]
  simp only [read, hwidth, readPrecision_append h]
  generalize (readPrecision (Directive.readWidth cs).2).2 = letters at h
  cases letters with
  | nil => contradiction
  | cons c ds =>
    by_cases hc : c ∈ conversions
    · simp [hc]
    · simp [hc]

theorem read_unfinished {cs : List Char} (h : Unfinished ('%' :: cs)) : read cs = none := by
  rw [unfinished_iff] at h
  simp only [read, h]

/-- A letter finishes it. -/
theorem exists_read_unfinished {cs : List Char} (h : Unfinished ('%' :: cs)) {c : Char}
    (hc : c ∈ conversions) :
    ∃ p : Placeholder, p.conversion = c ∧ read (cs ++ [c]) = some (p, []) := by
  obtain ⟨width, rest, heq, hwidth, hrest⟩ := h
  obtain rfl : cs = width ++ rest := List.cons.inj heq |>.2
  have hdigit := isDigit_of_mem_conversions hc
  rcases hrest with rfl | ⟨precision, rfl, hprecision⟩
  · refine ⟨⟨Directive.count? width, none, c⟩, rfl, ?_⟩
    have hpoint : c ≠ '.' := by
      rintro rfl
      revert hc
      decide
    have hsplit := Decimal.splitDigits_run_cons width c [] hwidth hdigit
    rw [List.append_nil]
    simp [read, Directive.readWidth, hsplit, readPrecision, hpoint, hc]
  · refine ⟨⟨Directive.count? width, if precision = [] then some 0 else Directive.count? precision, c⟩,
      rfl, ?_⟩
    have hsplit := Decimal.splitDigits_run_cons width '.' (precision ++ [c]) hwidth (by decide)
    have hdigits := Decimal.splitDigits_run_cons precision c [] hprecision hdigit
    rw [List.append_assoc, List.cons_append]
    simp [read, Directive.readWidth, hsplit, readPrecision, hdigits, hc]

end Placeholder

namespace Template

/-- Every unfinished placeholder that ends the text begins with the second sign of a pair. -/
def Closed (cs : List Char) : Prop :=
  ∀ front s, cs = front ++ s → Unfinished s → endsOpen front = true

theorem Closed.of_suffix {cs : List Char} (h : ∀ s, s <:+ cs → ¬ Unfinished s) : Closed cs :=
  fun front s hcs hs => absurd hs (h s ⟨front, hcs.symm⟩)

/-- Behind a last percent sign that begins no unfinished placeholder what follows is scanned apart. -/
theorem items_percent_append {cs : List Char} (hcs : '%' ∉ cs) (h : ¬ Unfinished ('%' :: cs))
    (rest : List Char) : items ('%' :: (cs ++ rest)) = items ('%' :: cs) ++ items rest := by
  have happend := Placeholder.read_append h rest
  cases hread : Placeholder.read cs with
  | some q =>
    obtain ⟨p, tail⟩ := q
    rw [hread, Option.map_some] at happend
    obtain ⟨used, rfl, -⟩ := Placeholder.exists_of_read hread
    have htail : '%' ∉ tail := fun hmem => hcs (List.mem_append_right _ hmem)
    rw [items_placeholder _ _ p happend, items_placeholder _ _ p hread, items_text tail htail,
      items_text_append tail rest htail]
    simp
  | none =>
    rw [hread, Option.map_none] at happend
    cases cs with
    | nil => exact absurd ⟨[], [], rfl, by simp, .inl rfl⟩ h
    | cons c cs =>
      have hc : c ≠ '%' := fun hc => hcs (by simp [hc])
      rw [items_percent _ (by simp [hc]) happend, items_percent _ (by simp [hc]) hread,
        items_text _ hcs, items_text_append _ rest hcs, List.cons_append]

theorem exists_last_percent {cs : List Char} (h : '%' ∈ cs) :
    ∃ front ds, cs = front ++ '%' :: ds ∧ '%' ∉ ds := by
  obtain ⟨ds, front, heq, hds⟩ := List.eq_append_cons_of_mem (List.mem_reverse.mpr h)
  refine ⟨front.reverse, ds.reverse, ?_, by simpa using hds⟩
  rw [← List.reverse_reverse cs, heq]
  simp

/-- Behind a closed text a template is scanned as if it stood alone. -/
theorem Closed.items_append {cs : List Char} (h : Closed cs) (rest : List Char) :
    items (cs ++ rest) = items cs ++ items rest := by
  have htext (ds : List Char) (hds : '%' ∉ ds) : items (ds ++ rest) = items ds ++ items rest := by
    rw [items_text_append ds rest hds, items_text ds hds]
  by_cases hmem : '%' ∈ cs
  · -- only the last percent sign can be read together with what follows the text
    obtain ⟨front, ds, rfl, hds⟩ := exists_last_percent hmem
    rw [List.append_assoc, List.cons_append, items_append_percent, items_append_percent,
      List.append_assoc]
    cases hopen : endsOpen front with
    | true => exact congrArg _ (htext ds hds)
    | false =>
      have hunfinished : ¬ Unfinished ('%' :: ds) := by
        intro hs
        rw [h front _ rfl hs] at hopen
        contradiction
      exact congrArg _ (items_percent_append hds hunfinished rest)
  · exact htext cs hmem

theorem Unfinished.exists_cons {s : List Char} (h : Unfinished s) : ∃ cs, s = '%' :: cs := by
  obtain ⟨width, rest, rfl, -⟩ := h
  exact ⟨width ++ rest, rfl⟩

theorem Unfinished.notMem_tail {cs : List Char} (h : Unfinished ('%' :: cs)) : '%' ∉ cs := by
  obtain ⟨width, rest, heq, hwidth, hrest⟩ := h
  obtain rfl : cs = width ++ rest := List.cons.inj heq |>.2
  intro hmem
  rcases List.mem_append.mp hmem with hmem | hmem
  · exact absurd (hwidth _ hmem) (by decide)
  · rcases hrest with rfl | ⟨precision, rfl, hprecision⟩
    · cases hmem
    · rcases List.mem_cons.mp hmem with hmem | hmem
      · exact absurd hmem (by decide)
      · exact absurd (hprecision _ hmem) (by decide)

/-- An unfinished placeholder whose percent sign is not the second of a pair is shown as text, and a
letter behind it makes it a placeholder. -/
theorem Unfinished.items_eq {front cs : List Char} (h : Unfinished ('%' :: cs))
    (hopen : endsOpen front = false) :
    items (front ++ '%' :: cs) = items front ++ chars ('%' :: cs) ∧
      ∃ p source, p.conversion = 'c' ∧
        items (front ++ '%' :: cs ++ ['c']) = items front ++ [.placeholder p source] := by
  have hpercent := h.notMem_tail
  have hcs (ds : List Char) : cs ≠ '%' :: ds := by
    rintro rfl
    exact hpercent List.mem_cons_self
  have hfront (ds : List Char) : items (front ++ '%' :: ds) = items front ++ items ('%' :: ds) := by
    rw [items_append_percent, hopen, if_neg Bool.false_ne_true]
  obtain ⟨p, hp, hread⟩ := Placeholder.exists_read_unfinished h (c := 'c') (by decide)
  constructor
  · rw [hfront, items_percent cs hcs (Placeholder.read_unfinished h), items_text cs hpercent,
      chars_cons]
  · refine ⟨p, '%' :: (cs ++ ['c']), hp, ?_⟩
    rw [List.append_assoc, List.cons_append, hfront, items_placeholder _ _ p hread, items_nil]
    simp

end Template

namespace Message
open Template

/-- With a value for each placeholder, and no other, none is left over. -/
theorem toPlain_of_filled {m : Message} (h : m.values.length = m.placeholders) :
    m.toPlain = fill (items m.template) m.values := by
  rw [toPlain_eq_fill, ← h, List.drop_length]
  exact List.append_nil _

/-- If the templates are scanned apart and every placeholder of the first has its value, the texts
stand one behind the other. -/
theorem toPlain_append_of_items {m n : Message} (hvalues : m.values.length = m.placeholders)
    (hitems : items (m.template ++ n.template) = items m.template ++ items n.template) :
    (m ++ n).toPlain = m.toPlain ++ n.toPlain := by
  have hholes : holes (items m.template) = m.values.length := hvalues.symm
  have hplaceholders : (m ++ n).placeholders = m.values.length + n.placeholders := by
    rw [placeholders, template_append, hitems, holes_append, hholes, placeholders]
  rw [toPlain_of_filled hvalues, toPlain_eq_fill n, toPlain_eq_fill, hplaceholders,
    template_append, values_append, hitems, fill_append_append hholes, List.drop_length_add_append,
    List.append_assoc]

/-- A letter that finishes a placeholder takes a value, which is left over where the letter stands
alone. -/
theorem closed_of_toPlain_append {m : Message} (hvalues : m.values.length = m.placeholders)
    (h : ∀ n : Message, (m ++ n).toPlain = m.toPlain ++ n.toPlain) : Closed m.template := by
  intro front s hm hs
  cases hopen : endsOpen front with
  | true => rfl
  | false =>
    obtain ⟨cs, rfl⟩ := hs.exists_cons
    obtain ⟨hitems, p, source, hp, hletter⟩ := hs.items_eq hopen
    rw [← hm] at hitems hletter
    have hholes : holes (items front) = m.values.length := by
      rw [hvalues, placeholders, hitems, holes_append, holes_chars, Nat.add_zero]
    let n : Message := ⟨['c'], [.null]⟩
    have hfilled : (m ++ n).values.length = (m ++ n).placeholders := by
      rw [placeholders, template_append, hletter, holes_append, hholes, values_append,
        List.length_append]
      rfl
    have hplain : m.toPlain = fill (items front) m.values ++ '%' :: cs := by
      rw [toPlain_of_filled hvalues, hitems, fill_append, fill_chars]
    have htaken : (m ++ n).toPlain = fill (items front) m.values := by
      rw [toPlain_of_filled hfilled, template_append, hletter, values_append,
        fill_append_append hholes, fill, if_pos hp]
      exact List.append_nil _
    have hlength := congrArg List.length (h n)
    rw [htaken, hplain, List.length_append, List.length_append, List.length_cons] at hlength
    omega

/-- Another message behind one with a value for each placeholder shows what it shows by itself,
whether it has too few values or too many, if the template in front of it does not end in an unfinished
placeholder. Such an ending does no harm only where its percent sign is the second of a pair: otherwise
something behind it is shown differently. -/
theorem toPlain_append_iff_closed (m : Message) (hvalues : m.values.length = m.placeholders) :
    ((∀ s, s <:+ m.template → ¬ Unfinished s) →
      ∀ n : Message, (m ++ n).toPlain = m.toPlain ++ n.toPlain) ∧
    ((∀ n : Message, (m ++ n).toPlain = m.toPlain ++ n.toPlain) ↔ Closed m.template) := by
  have happend (hclosed : Closed m.template) (n : Message) :
      (m ++ n).toPlain = m.toPlain ++ n.toPlain :=
    toPlain_append_of_items hvalues (hclosed.items_append n.template)
  exact ⟨fun hsuffix => happend (Closed.of_suffix hsuffix),
    closed_of_toPlain_append hvalues, happend⟩

/-- A pair of percent signs and one that begins nothing, in front of a placeholder and of values left
over. -/
theorem toPlain_append_iff_closed_leftover :
    let m : Message := ⟨"%d%% of %q: ".toList, [.num (.int 7)]⟩
    let n : Message := ⟨"5.1s %.1f".toList, [.str "2.25", .bool true, .null]⟩
    m.values.length = m.placeholders ∧ (∀ s, s <:+ m.template → ¬ Unfinished s) ∧
      (m ++ n).toPlain = "7% of %q: 5.1s 2.2 true null".toList := by
  intro m n
  have hvalues : m.values.length = m.placeholders := by decide +kernel
  have hall : ∀ s ∈ m.template.tails, ¬ Unfinished s := by decide +kernel
  have hsuffix (s : List Char) (hs : s <:+ m.template) : ¬ Unfinished s :=
    hall s ((List.mem_tails s m.template).mpr hs)
  refine ⟨hvalues, hsuffix, ((toPlain_append_iff_closed m hvalues).1 hsuffix n).trans ?_⟩
  decide +kernel

end Message

end Logline
