import Logline.Proofs.Sheet
/-!
Style sheets built call by call. Whatever the order of the calls, a value has the rule that it was
given last, and fields, values and properties stand once each, in the order of their first calls.
-/
namespace Logline.StyleSheet
open Ordered

/-- Call that builds on a sheet. The declarations may name a property more than once. -/
inductive Call where
  | rule (field value : String) (declarations : List (String × String))
  | shared (declarations : List (String × String))
  deriving DecidableEq, Repr

namespace Call

/-- Field that a call gives a rule to. -/
def field? : Call → Option String
  | .rule field _ _ => some field
  | .shared _ => none

/-- Value of a field that a call gives a rule to. -/
def value? (field : String) : Call → Option String
  | .rule f value _ => if f = field then some value else none
  | .shared _ => none

/-- Declarations that a call gives to a value of a field. -/
def rule? (field value : String) : Call → Option (List (String × String))
  | .rule f v declarations => if f = field ∧ v = value then some declarations else none
  | .shared _ => none

/-- Declarations that a call gives to all rules. -/
def shared? : Call → Option (List (String × String))
  | .rule _ _ _ => none
  | .shared declarations => some declarations

end Call

def call (s : StyleSheet) : Call → StyleSheet
  | .rule field value declarations => s.withRule field value declarations
  | .shared declarations => s.withShared declarations

/-- Sheet after calls in order, the first of them on an empty sheet. -/
def build (calls : List Call) : StyleSheet :=
  calls.foldl call empty

/-- Declarations of the last call for a value of a field. -/
def lastRule? (field value : String) (calls : List Call) : Option (List (String × String)) :=
  (calls.filterMap (Call.rule? field value)).getLast?

def lastShared? (calls : List Call) : Option (List (String × String)) :=
  (calls.filterMap Call.shared?).getLast?

theorem filterMap_concat {α β : Type} (f : α → Option β) (l : List α) (a : α) :
    (l ++ [a]).filterMap f = l.filterMap f ++ (f a).toList := by
  rw [List.filterMap_append, List.filterMap_cons, List.filterMap_nil]
  cases f a <;> rfl

theorem getLast?_filterMap_concat {α β : Type} (f : α → Option β) (l : List α) (a : α) :
    ((l ++ [a]).filterMap f).getLast? = (f a).or (l.filterMap f).getLast? := by
  rw [filterMap_concat, List.getLast?_append]
  cases f a <;> rfl

/-- Rules of a field by value, none if the field has none. -/
def rulesOf (s : StyleSheet) (field : String) : List (String × Declarations) :=
  (s.rules.lookup field).getD []

theorem rule?_eq (s : StyleSheet) (field value : String) :
    s.rule? field value =
      ((s.rulesOf field).lookup value).or ((s.rulesOf field).lookup wildcard) := by
  rw [rule?, rulesOf]
  cases s.rules.lookup field with
  | none => rfl
  | some values => exact Option.orElse_eq_or

theorem rulesOf_withRule (s : StyleSheet) (field value : String)
    (declarations : List (String × String)) (other : String) :
    (s.withRule field value declarations).rulesOf other =
      if other = field then put value (ofList declarations) (s.rulesOf field)
      else s.rulesOf other := by
  rw [rulesOf, withRule, lookup_put]
  split <;> rfl

/-- What a sheet holds after calls: under every value the declarations of the last call for it, and
fields and values in the order of their first calls. -/
structure Follows (calls : List Call) (s : StyleSheet) : Prop where
  wellFormed : s.WellFormed
  shared : s.shared = (lastShared? calls).map ofList
  fields : s.rules.map Prod.fst = (calls.filterMap Call.field?).eraseDups
  values : ∀ field,
    (s.rulesOf field).map Prod.fst = (calls.filterMap (Call.value? field)).eraseDups
  rule : ∀ field value, (s.rulesOf field).lookup value = (lastRule? field value calls).map ofList

variable {calls : List Call} {s : StyleSheet}

theorem Follows.empty : Follows [] empty where
  wellFormed := wellFormed_empty
  shared := rfl
  fields := rfl
  values _ := rfl
  rule _ _ := rfl

theorem Follows.withShared (h : Follows calls s) (declarations : List (String × String)) :
    Follows (calls ++ [.shared declarations]) (s.withShared declarations) where
  wellFormed := h.wellFormed.withShared declarations
  shared := by
    rw [lastShared?, getLast?_filterMap_concat]
    rfl
  fields := by
    rw [filterMap_concat, Call.field?, Option.toList_none, List.append_nil]
    exact h.fields
  values field := by
    rw [filterMap_concat, Call.value?, Option.toList_none, List.append_nil]
    exact h.values field
  rule field value := by
    rw [lastRule?, getLast?_filterMap_concat, Call.rule?, Option.none_or]
    exact h.rule field value

theorem Follows.withRule (h : Follows calls s) (field value : String)
    (declarations : List (String × String)) :
    Follows (calls ++ [.rule field value declarations])
      (s.withRule field value declarations) where
  wellFormed := h.wellFormed.withRule field value declarations
  shared := by
    rw [lastShared?, getLast?_filterMap_concat, Call.shared?, Option.none_or]
    exact h.shared
  fields := by
    rw [filterMap_concat]
    exact keys_put_eq h.fields field _
  -- only the rules of the field itself change
  values other := by
    rw [rulesOf_withRule, filterMap_concat, Call.value?]
    by_cases hfield : other = field
    · rw [if_pos hfield, if_pos hfield.symm, hfield]
      exact keys_put_eq (h.values field) value _
    · rw [if_neg hfield, if_neg (Ne.symm hfield), Option.toList_none, List.append_nil]
      exact h.values other
  rule other v := by
    rw [rulesOf_withRule, lastRule?, getLast?_filterMap_concat, Call.rule?]
    by_cases hfield : other = field
    · subst hfield
      rw [if_pos rfl, lookup_put]
      by_cases hvalue : v = value
      · rw [if_pos hvalue, if_pos ⟨rfl, hvalue.symm⟩]
        rfl
      · rw [if_neg hvalue, if_neg fun hboth => hvalue hboth.2.symm, Option.none_or]
        exact h.rule other v
    · rw [if_neg hfield, if_neg fun hboth => hfield hboth.1.symm, Option.none_or]
      exact h.rule other v

theorem Follows.call (h : Follows calls s) (c : Call) : Follows (calls ++ [c]) (s.call c) := by
  cases c with
  | rule field value declarations => exact h.withRule field value declarations
  | shared declarations => exact h.withShared declarations

/-- A run of calls keeps to the calls made before it. -/
theorem Follows.run (h : Follows calls s) (more : List Call) :
    Follows (calls ++ more) (more.foldl StyleSheet.call s) := by
  induction more generalizing calls s with
  | nil =>
    rw [List.append_nil]
    exact h
  | cons c more ih =>
    rw [List.append_cons]
    exact ih (h.call c)

theorem follows_build (calls : List Call) : Follows calls (build calls) :=
  Follows.empty.run calls

theorem Follows.rule?_eq (h : Follows calls s) (field value : String) :
    s.rule? field value =
      ((lastRule? field value calls).or (lastRule? field wildcard calls)).map ofList := by
  rw [StyleSheet.rule?_eq, h.rule, h.rule, Option.map_or]

/-- The rule for a value is the one last given to it, or else to the wildcard. Fields, and the values
of each field, stand once each in the order of their first calls, and so do the properties of a call's
declarations, each with the value it has last. A rule merged into the shared block leaves the block's
properties in their order, with the rule's values where it has any, and the rule's other properties come
behind them in theirs; merging again changes nothing. -/
theorem rule?_merged_build (calls : List Call) :
    let s := build calls
    let block := s.shared.getD []
    (∀ field value, s.rule? field value =
        ((lastRule? field value calls).or (lastRule? field wildcard calls)).map ofList) ∧
      s.shared = (lastShared? calls).map ofList ∧
      s.WellFormed ∧
      s.rules.map Prod.fst = (calls.filterMap Call.field?).eraseDups ∧
      (∀ field, (s.rulesOf field).map Prod.fst =
        (calls.filterMap (Call.value? field)).eraseDups) ∧
      (∀ declarations : List (String × String),
        UniqueKeys (ofList declarations) ∧
          (ofList declarations).map Prod.fst = (declarations.map Prod.fst).eraseDups ∧
          ∀ property, (ofList declarations).lookup property =
            declarations.reverse.lookup property) ∧
      ∀ rule, UniqueKeys rule →
        UniqueKeys (s.merged rule) ∧
          s.merged rule = block.map (fun d => (d.1, (rule.lookup d.1).getD d.2)) ++
            rule.filter (fun d => d.1 ∉ block.map Prod.fst) ∧
          s.merged (s.merged rule) = s.merged rule := by
  intro s block
  have h : Follows calls s := follows_build calls
  refine ⟨h.rule?_eq, h.shared, h.wellFormed, h.fields, h.values, ?_, ?_⟩
  · intro declarations
    exact ⟨unique_ofList declarations, keys_ofList declarations, lookup_ofList declarations⟩
  · intro rule hrule
    exact ⟨unique_putAll h.wellFormed.unique_block rule, h.wellFormed.merged_eq hrule,
      putAll_putAll h.wellFormed.unique_block hrule⟩

/-- A value given a rule twice keeps its place and has the later rule, and a property named twice in
one call has the later value. -/
theorem rule?_merged_build_replaced :
    let calls : List Call :=
      [.rule "level" "*" [("color", "gray")], .shared [("padding", "0 2px"), ("color", "white")],
        .rule "name" "db" [("color", "blue")],
        .rule "level" "ERROR" [("color", "orange"), ("font-weight", "bold"), ("color", "red")],
        .rule "level" "*" [("color", "silver")]]
    let rule : Declarations := [("color", "red"), ("font-weight", "bold")]
    let s := build calls
    UniqueKeys rule ∧ s.rule? "level" "ERROR" = some rule ∧
      s.rule? "level" "INFO" = some [("color", "silver")] ∧ s.rule? "name" "web" = none ∧
      s.merged rule = [("padding", "0 2px"), ("color", "red"), ("font-weight", "bold")] ∧
      s.merged (s.merged rule) = s.merged rule := by
  intro calls rule s
  have hrule : UniqueKeys rule := by decide
  obtain ⟨hlast, -, -, -, -, -, hmerged⟩ := rule?_merged_build calls
  obtain ⟨-, heq, hagain⟩ := hmerged rule hrule
  refine ⟨hrule, ?_, ?_, ?_, ?_, hagain⟩
  · exact (hlast "level" "ERROR").trans (by decide)
  · exact (hlast "level" "INFO").trans (by decide)
  · exact (hlast "name" "web").trans (by decide)
  · exact heq.trans (by decide)

end Logline.StyleSheet
