import Logline.Layout
import Logline.Proofs.Decimal
/-!
Reading placeholders. A placeholder that is written reads back as itself, except that counts above
the greatest one are absent; they count for nothing when it formats a value either. A percent sign
ends whatever is being read in front of it.
-/
namespace Logline

namespace Directive

theorem count?_digits (n : Nat) : count? (Decimal.digits n) = Placeholder.capped (some n) := by
  rw [count?, if_neg (Decimal.digits_ne_nil n), Decimal.value_digits]
  by_cases h : n ≤ maxCount
  · simp [Placeholder.capped, Option.filter, h]
  · simp [Placeholder.capped, Option.filter, h]

/-- The width written in front of a character that is no digit. -/
theorem readWidth_digits (width : Option Nat) (c : Char) (rest : List Char)
    (hc : c.isDigit = false) :
    readWidth ((width.map Decimal.digits).getD [] ++ c :: rest) =
      (Placeholder.capped width, c :: rest) := by
  cases width with
  | none =>
    have hsplit := Decimal.splitDigits_run_cons [] c rest (by simp) hc
    simp only [List.nil_append] at hsplit
    simp [readWidth, hsplit, count?, Placeholder.capped]
  | some n =>
    have hsplit := Decimal.splitDigits_run_cons (Decimal.digits n) c rest
      (fun _ h => Decimal.isDigit_of_mem_digits h) hc
    simp [readWidth, hsplit, count?_digits]

end Directive

namespace Placeholder

/-- Placeholder without the counts that are too great. -/
def limited (p : Placeholder) : Placeholder :=
  ⟨capped p.width, capped p.precision, p.conversion⟩

@[simp] theorem limited_conversion (p : Placeholder) : p.limited.conversion = p.conversion := rfl

@[simp] theorem capped_capped (n : Option Nat) : capped (capped n) = capped n := by
  cases n <;> simp [capped, Option.filter_filter]

@[simp] theorem format_limited (p : Placeholder) (v : Json) : p.limited.format v = p.format v := by
  simp only [format, body, limited, capped_capped]

@[simp] theorem format_object (v : Json) : format ⟨none, none, 'o'⟩ v = v.compact := by
  simp [format, body, capped, Decimal.padLeft]

/-- What is written behind the percent sign. -/
def spec (p : Placeholder) : List Char :=
  p.source.tail

theorem source_eq (p : Placeholder) : p.source = '%' :: p.spec := rfl

theorem spec_eq (p : Placeholder) : p.spec = (p.width.map Decimal.digits).getD [] ++
    ((p.precision.map fun n => '.' :: Decimal.digits n).getD [] ++ [p.conversion]) := by
  simp [spec, source]

theorem spec_eq_append (p : Placeholder) : ∃ cs, p.spec = cs ++ [p.conversion] := by
  rw [spec_eq, ← List.append_assoc]
  exact ⟨_, rfl⟩

theorem source_eq_append (p : Placeholder) : ∃ cs, p.source = cs ++ [p.conversion] := by
  obtain ⟨cs, hcs⟩ := p.spec_eq_append
  exact ⟨'%' :: cs, by rw [source_eq, hcs, List.cons_append]⟩

theorem mem_spec {p : Placeholder} {c : Char} (h : c ∈ p.spec) :
    c.isDigit = true ∨ c = '.' ∨ c = p.conversion := by
  rw [spec_eq, List.mem_append, List.mem_append, List.mem_singleton] at h
  rcases h with h | h | h
  · cases hw : p.width with
    | none => simp [hw] at h
    | some n =>
      rw [hw] at h
      exact .inl (Decimal.isDigit_of_mem_digits h)
  · cases hp : p.precision with
    | none => simp [hp] at h
    | some n =>
      rw [hp] at h
      rcases List.mem_cons.mp h with h | h
      · exact .inr (.inl h)
      · exact .inl (Decimal.isDigit_of_mem_digits h)
  · exact .inr (.inr h)

theorem notMem_spec {p : Placeholder} {c : Char} (hdigit : c.isDigit = false) (hpoint : c ≠ '.')
    (hc : c ≠ p.conversion) : c ∉ p.spec := by
  intro h
  rcases mem_spec h with h | h | h
  · rw [hdigit] at h
    contradiction
  · exact hpoint h
  · exact hc h

theorem isDigit_of_mem_conversions {c : Char} (h : c ∈ conversions) : c.isDigit = false := by
  have hall : conversions.all (fun c => !c.isDigit) = true := by decide
  exact Bool.not_eq_true' _ |>.mp (List.all_eq_true.mp hall c h)

/-- The precision written in front of a conversion. -/
theorem readPrecision_digits (precision : Option Nat) (c : Char) (rest : List Char)
    (hc : c ∈ conversions) :
    readPrecision ((precision.map fun n => '.' :: Decimal.digits n).getD [] ++ c :: rest) =
      (capped precision, c :: rest) := by
  cases precision with
  | none =>
    have hdot : c ≠ '.' := by rintro rfl; revert hc; decide
    simp [readPrecision, capped, hdot]
  | some n =>
    have hsplit := Decimal.splitDigits_run_cons (Decimal.digits n) c rest
      (fun _ h => Decimal.isDigit_of_mem_digits h) (isDigit_of_mem_conversions hc)
    simp [readPrecision, hsplit, Decimal.digits_ne_nil, Directive.count?_digits]

/-- What is written reads back, whatever follows it. -/
theorem read_spec (p : Placeholder) (h : p.conversion ∈ conversions) (rest : List Char) :
    read (p.spec ++ rest) = some (p.limited, rest) := by
  have hprecision := readPrecision_digits p.precision p.conversion rest h
  have hwidth : Directive.readWidth (p.spec ++ rest) = (capped p.width,
      (p.precision.map fun n => '.' :: Decimal.digits n).getD [] ++ p.conversion :: rest) := by
    rw [spec_eq]
    cases p.precision with
    | none =>
      simpa using Directive.readWidth_digits p.width p.conversion rest
        (isDigit_of_mem_conversions h)
    | some n =>
      simpa using Directive.readWidth_digits p.width '.'
        (Decimal.digits n ++ p.conversion :: rest) (by decide)
  simp only [read, hwidth, hprecision, if_pos h, limited]

theorem readPrecision_append_percent (cs rest : List Char) :
    readPrecision (cs ++ '%' :: rest) =
      ((readPrecision cs).1, (readPrecision cs).2 ++ '%' :: rest) := by
  cases cs with
  | nil => simp [readPrecision]
  | cons c cs =>
    by_cases hc : c = '.'
    · subst hc
      simp only [List.cons_append, readPrecision,
        Decimal.splitDigits_append_cons cs '%' rest (by decide)]
    · simp [readPrecision, hc]

/-- Whatever is read behind a percent sign is read without regard to a later one. -/
theorem read_append_percent (cs rest : List Char) :
    read (cs ++ '%' :: rest) = (read cs).map fun q => (q.1, q.2 ++ '%' :: rest) := by
  have hwidth : Directive.readWidth (cs ++ '%' :: rest) =
      ((Directive.readWidth cs).1, (Directive.readWidth cs).2 ++ '%' :: rest) := by
    simp only [Directive.readWidth, Decimal.splitDigits_append_cons cs '%' rest (by decide)]
  simp only [read, hwidth, readPrecision_append_percent]
  cases (readPrecision (Directive.readWidth cs).2).2 with
  | nil => simp [conversions]
  | cons c ds =>
    by_cases hc : c ∈ conversions
    · simp [hc]
    · simp [hc]

theorem read_percent (cs : List Char) : read ('%' :: cs) = none := by
  simpa [read, Directive.readWidth, readPrecision, Decimal.splitDigits] using
    read_append_percent [] cs

theorem read_parenthesis (cs : List Char) : read ('(' :: cs) = none := by
  have hwidth : Directive.readWidth ('(' :: cs) = (none, '(' :: cs) :=
    Directive.readWidth_digits none '(' cs (by decide)
  have hprecision : readPrecision ('(' :: cs) = (none, '(' :: cs) := by simp [readPrecision]
  simp only [read, hwidth, hprecision]
  rw [if_neg (by decide)]

theorem percent_notMem_splitDigits (cs : List Char) : '%' ∉ (Decimal.splitDigits cs).1 :=
  fun h => absurd (Decimal.isDigit_of_mem_splitDigits h) (by decide)

/-- What a precision is read from holds no percent sign. -/
theorem exists_of_readPrecision (cs : List Char) :
    ∃ used, cs = used ++ (readPrecision cs).2 ∧ '%' ∉ used := by
  unfold readPrecision
  split
  · rename_i rest
    refine ⟨'.' :: (Decimal.splitDigits rest).1, ?_, ?_⟩
    · simp
    · simp [percent_notMem_splitDigits]
  · exact ⟨[], rfl, by simp⟩

/-- What a placeholder is read from holds no percent sign. -/
theorem exists_of_read {cs rest : List Char} {p : Placeholder} (h : read cs = some (p, rest)) :
    ∃ used, cs = used ++ rest ∧ used ≠ [] ∧ '%' ∉ used := by
  obtain ⟨point, hpoint, hpercent⟩ := exists_of_readPrecision (Directive.readWidth cs).2
  have hwidth : (Decimal.splitDigits cs).1 ++ (Directive.readWidth cs).2 = cs :=
    Decimal.splitDigits_append cs
  simp only [read] at h
  split at h
  · rename_i c tail htail
    split at h
    · rename_i hc
      cases h
      rw [htail] at hpoint
      refine ⟨(Decimal.splitDigits cs).1 ++ point ++ [c], ?_, by simp, ?_⟩
      · rw [List.append_assoc, List.append_assoc, List.singleton_append, ← hpoint, hwidth]
      · have hne : c ≠ '%' := by
          rintro rfl
          revert hc
          decide
        simp [percent_notMem_splitDigits, hpercent, hne.symm]
    · contradiction
  · contradiction

end Placeholder

end Logline
