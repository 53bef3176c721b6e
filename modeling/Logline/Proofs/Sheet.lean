import Logline.Proofs.Ordered
import Logline.StyleSheet
/-!
Well-formed style sheets. A sheet that is built rule by rule has every field, value and property once,
and a rule merged into the shared block leaves the properties of the block in their places.
-/
namespace Logline.StyleSheet
open Ordered

/-- Properties stand once in the shared block and in each rule, values once in each field, and fields
once in the sheet. -/
structure WellFormed (s : StyleSheet) : Prop where
  shared : ∀ ds ∈ s.shared, UniqueKeys ds
  fields : UniqueKeys s.rules
  rules : ∀ field ∈ s.rules, UniqueKeys field.2 ∧ ∀ value ∈ field.2, UniqueKeys value.2

theorem wellFormed_empty : empty.WellFormed where
  shared := by
    intro ds hds
    cases hds
  fields := .nil
  rules := by
    intro field hfield
    cases hfield

variable {s : StyleSheet}

theorem WellFormed.withShared (h : s.WellFormed) (ds : Declarations) :
    (s.withShared ds).WellFormed where
  shared := by
    intro read hread
    cases hread
    exact unique_ofList ds
  fields := h.fields
  rules := h.rules

theorem WellFormed.withRule (h : s.WellFormed) (field value : String) (ds : Declarations) :
    (s.withRule field value ds).WellFormed := by
  have hvalues : UniqueKeys ((s.rules.lookup field).getD []) ∧
      ∀ p ∈ (s.rules.lookup field).getD [], UniqueKeys p.2 := by
    cases hfield : s.rules.lookup field with
    | none => exact ⟨.nil, fun p hp => by cases hp⟩
    | some values => exact h.rules (field, values) (mem_of_lookup hfield)
  have hproperties : ∀ p ∈ put value (ofList ds) ((s.rules.lookup field).getD []), UniqueKeys p.2 :=
    forall_mem_put (P := fun p => UniqueKeys p.2) (unique_ofList ds) hvalues.2
  exact ⟨h.shared, nodup_put h.fields field _,
    forall_mem_put ⟨nodup_put hvalues.1 value _, hproperties⟩ h.rules⟩

/-- The rule that applies is one of the field's. -/
theorem mem_of_rule? {field value : String} {rule : Declarations}
    (h : s.rule? field value = some rule) : ∃ p ∈ s.rules, ∃ q ∈ p.2, q.2 = rule := by
  obtain ⟨values, hvalues, h⟩ := Option.bind_eq_some_iff.mp h
  refine ⟨_, mem_of_lookup hvalues, ?_⟩
  cases hown : values.lookup value with
  | some own =>
    rw [hown] at h
    cases h
    exact ⟨_, mem_of_lookup hown, rfl⟩
  | none =>
    rw [hown] at h
    exact ⟨_, mem_of_lookup h, rfl⟩

theorem WellFormed.unique_rule (h : s.WellFormed) {field value : String} {rule : Declarations}
    (hrule : s.rule? field value = some rule) : UniqueKeys rule := by
  obtain ⟨p, hp, q, hq, rfl⟩ := mem_of_rule? hrule
  exact (h.rules p hp).2 q hq

theorem WellFormed.unique_block (h : s.WellFormed) : UniqueKeys (s.shared.getD []) := by
  cases hshared : s.shared with
  | none => exact .nil
  | some ds => exact h.shared ds hshared

/-- The shared block stays in its order, with the rule's values where the rule has the property too,
and the other declarations of the rule come behind it in theirs. -/
theorem WellFormed.merged_eq (h : s.WellFormed) {rule : Declarations} (hrule : UniqueKeys rule) :
    let block := s.shared.getD []
    s.merged rule = block.map (fun d => (d.1, (rule.lookup d.1).getD d.2)) ++
      rule.filter (fun d => d.1 ∉ block.map Prod.fst) :=
  putAll_eq h.unique_block hrule

end Logline.StyleSheet
