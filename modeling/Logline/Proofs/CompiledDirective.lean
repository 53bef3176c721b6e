import Logline.Proofs.Line
/-!
Placeholders of directives. What a directive is compiled to is scanned as one placeholder, whatever
text follows it, and it is read as it was written, except that a width and a precision that are too
great are absent, each without regard to the other.
-/
namespace Logline.Directive
open Template

/-- A number that is not the record's time; for other fields the counts are passed over. -/
def isNumeric (d : Directive) : Bool :=
  !d.isTime && (d.kind == .int || d.kind == .float)

/-- A time is text whatever its type. -/
theorem eq_of_placeholder? {d : Directive} {p : Placeholder} (h : d.placeholder? = some p) :
    p = ⟨if d.isNumeric then d.width else none, if d.isNumeric then d.precision else none,
      if d.isTime then 's' else d.kind.letter⟩ := by
  unfold placeholder? at h
  unfold isNumeric
  cases htime : d.isTime with
  | true =>
    rw [htime] at h
    cases h
    rfl
  | false =>
    rw [htime] at h
    cases hk : d.kind <;> rw [hk] at h <;> cases h <;> rfl

/-- The placeholder that a directive is written as is one piece of every template that it begins. Its
letter is that of the type, or that of text for a time. For numbers its counts are those of the
directive, without the ones above 1024; for other types it has none. -/
theorem pieces_compiled_append (d : Directive) (s : List Char)
    (hs : d.placeholder?.map Placeholder.source = some s) (u : List Char) :
    ∃ p : Placeholder, pieces (s ++ u) = .placeholder p s :: pieces u ∧
      p.conversion = (if d.isTime then 's' else d.kind.letter) ∧
      p.width = (if d.isNumeric then d.width.filter (· ≤ 1024) else none) ∧
      p.precision = (if d.isNumeric then d.precision.filter (· ≤ 1024) else none) := by
  obtain ⟨p, hp, rfl⟩ := Option.map_eq_some_iff.mp hs
  refine ⟨p.limited, pieces_source p (placeholder?_conversion hp).1 u, ?_⟩
  rw [eq_of_placeholder? hp]
  cases d.isNumeric with
  | true => exact ⟨rfl, rfl, rfl⟩
  | false => exact ⟨rfl, rfl, rfl⟩

/-- A width of 64 bits is absent, and the precision in front of more digits is still zero. -/
theorem pieces_compiled_append_oversized :
    let d : Directive := ⟨"load", some '0', some 18446744073709551615, some 0, .float⟩
    let s := "%18446744073709551615.0f".toList
    d.placeholder?.map Placeholder.source = some s ∧
      pieces (s ++ "5.1s".toList) = .placeholder ⟨none, some 0, 'f'⟩ s :: pieces "5.1s".toList := by
  intro d s
  have hs : d.placeholder?.map Placeholder.source = some s := by decide +kernel
  obtain ⟨⟨width, precision, conversion⟩, hpieces, hconversion, hwidth, hprecision⟩ :=
    pieces_compiled_append d s hs "5.1s".toList
  obtain rfl : width = none := hwidth
  obtain rfl : precision = some 0 := hprecision
  obtain rfl : conversion = 'f' := hconversion
  exact ⟨hs, hpieces⟩

end Logline.Directive
