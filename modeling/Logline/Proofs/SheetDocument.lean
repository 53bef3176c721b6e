import Logline.Proofs.JsonText
import Logline.Proofs.Sheet
import Logline.StyleSheet
import Logline.Toml.Reader
/-!
Documents of style sheets. What a document holds is well formed and keeps the name of the shared block
to that block, so the sheet's own document tells its members apart again, and its text reads back.
-/
namespace Logline.StyleSheet
open Ordered

section Maps

variable {α : Type} {read? : Json → Option α}

theorem mapM_members (write : α → Json) {m : List (String × α)}
    (h : ∀ p ∈ m, read? (write p.2) = some p.2) :
    (m.map fun p => (p.1, write p.2)).mapM (fun p => (read? p.2).map (p.1, ·)) = some m := by
  induction m with
  | nil => rfl
  | cons p m ih =>
    obtain ⟨hp, hm⟩ := List.forall_mem_cons.mp h
    rw [List.map_cons, List.mapM_cons, hp, ih hm]
    rfl

/-- A map reads back if its values do. -/
theorem readMap?_write (write : α → Json) {m : List (String × α)} (hm : UniqueKeys m)
    (h : ∀ p ∈ m, read? (write p.2) = some p.2) :
    readMap? read? (.obj (m.map fun p => (p.1, write p.2))) = some m := by
  rw [readMap?, mapM_members write h, Option.map_some, ofList_of_unique hm]

theorem forall_mem_of_mapM {P : String × α → Prop} {ms : List (String × Json)}
    (h : ∀ p ∈ ms, ∀ a, read? p.2 = some a → P (p.1, a)) {m : List (String × α)}
    (hm : ms.mapM (fun p => (read? p.2).map (p.1, ·)) = some m) : ∀ p ∈ m, P p := by
  induction ms generalizing m with
  | nil =>
    cases hm
    intro p hp
    cases hp
  | cons q ms ih =>
    obtain ⟨hq, hms⟩ := List.forall_mem_cons.mp h
    simp only [List.mapM_cons, Option.bind_eq_bind, Option.bind_eq_some_iff, Option.map_eq_some_iff,
      Option.pure_def, Option.some.injEq] at hm
    obtain ⟨-, ⟨a, ha, rfl⟩, rest, hrest, rfl⟩ := hm
    exact List.forall_mem_cons.mpr ⟨hq a ha, ih hms hrest⟩

/-- A map that is read has every key once, and of its pairs holds what holds of every member read. -/
theorem of_readMap? {P : String × α → Prop} {v : Json}
    (h : ∀ p ∈ v.members, ∀ a, read? p.2 = some a → P (p.1, a)) {m : List (String × α)}
    (hm : readMap? read? v = some m) : UniqueKeys m ∧ ∀ p ∈ m, P p := by
  unfold readMap? at hm
  split at hm
  · obtain ⟨pairs, hpairs, rfl⟩ := Option.map_eq_some_iff.mp hm
    exact ⟨unique_ofList pairs, forall_mem_ofList (forall_mem_of_mapM h hpairs)⟩
  · cases hm

end Maps

theorem unique_of_readDeclarations? {v : Json} {ds : Declarations}
    (h : readDeclarations? v = some ds) : UniqueKeys ds :=
  (of_readMap? (P := fun _ => True) (fun _ _ _ _ => trivial) h).1

theorem unique_of_readShared? {vs : List Json} {shared : Option Declarations}
    (h : readShared? vs = some shared) : ∀ ds ∈ shared, UniqueKeys ds := by
  intro ds hds
  unfold readShared? at h
  split at h
  · cases h
    cases hds
  · cases h
    cases hds
  · obtain ⟨read, hread, rfl⟩ := Option.map_eq_some_iff.mp h
    cases hds
    exact unique_of_readDeclarations? hread
  · cases h

/-- A sheet that a document holds is well formed, and its fields have other names than the block. -/
theorem wellFormed_of_ofJson? {v : Json} {s : StyleSheet} (h : ofJson? v = some s) :
    s.WellFormed ∧ sharedKey ∉ s.rules.map Prod.fst := by
  unfold ofJson? at h
  split at h
  · rename_i ms
    simp only [List.partition_eq_filter_filter, Option.bind_eq_bind, Option.bind_eq_some_iff,
      Option.some.injEq] at h
    obtain ⟨shared, hshared, rules, hrules, rfl⟩ := h
    obtain ⟨hfields, hrules⟩ := of_readMap?
      (P := fun field =>
        field.1 ≠ sharedKey ∧ UniqueKeys field.2 ∧ ∀ value ∈ field.2, UniqueKeys value.2) (by
        intro field hfield values hvalues
        have hkey := (List.mem_filter.mp hfield).2
        exact ⟨by simpa using hkey, of_readMap? (P := fun value => UniqueKeys value.2)
          (fun _ _ _ hds => unique_of_readDeclarations? hds) hvalues⟩) hrules
    refine ⟨⟨unique_of_readShared? hshared, hfields, fun field h => (hrules field h).2⟩, ?_⟩
    rw [List.mem_map]
    rintro ⟨field, hfield, heq⟩
    exact (hrules field hfield).1 heq
  · cases h

def ofValues (values : List (String × Declarations)) : Json :=
  .obj (values.map fun value => (value.1, ofDeclarations value.2))

def sharedMembers (s : StyleSheet) : List (String × Json) :=
  s.shared.toList.map fun ds => (sharedKey, ofDeclarations ds)

def ruleMembers (s : StyleSheet) : List (String × Json) :=
  s.rules.map fun field => (field.1, ofValues field.2)

theorem toJson_eq (s : StyleSheet) : s.toJson = .obj (s.sharedMembers ++ s.ruleMembers) := rfl

theorem readDeclarations?_ofDeclarations {ds : Declarations} (h : UniqueKeys ds) :
    readDeclarations? (ofDeclarations ds) = some ds :=
  readMap?_write .str h fun _ _ => rfl

variable {s : StyleSheet}

theorem WellFormed.readShared?_sharedMembers (h : s.WellFormed) :
    readShared? (s.sharedMembers.map Prod.snd) = some s.shared := by
  rw [sharedMembers]
  cases hshared : s.shared with
  | none => rfl
  | some ds =>
    exact congrArg (Option.map some) (readDeclarations?_ofDeclarations (h.shared ds hshared))

theorem WellFormed.readMap?_ruleMembers (h : s.WellFormed) :
    readMap? (readMap? readDeclarations?) (.obj s.ruleMembers) = some s.rules := by
  refine readMap?_write ofValues h.fields fun field hfield => ?_
  obtain ⟨hvalues, hproperties⟩ := h.rules field hfield
  exact readMap?_write ofDeclarations hvalues fun value hvalue =>
    readDeclarations?_ofDeclarations (hproperties value hvalue)

/-- The block is told from the rules by its name. -/
theorem partition_members (h : sharedKey ∉ s.rules.map Prod.fst) :
    (s.sharedMembers ++ s.ruleMembers).partition (fun m => m.1 == sharedKey) =
      (s.sharedMembers, s.ruleMembers) := by
  have hshared : ∀ m ∈ s.sharedMembers, (m.1 == sharedKey) = true := by
    intro m hm
    obtain ⟨ds, -, rfl⟩ := List.mem_map.mp hm
    exact beq_self_eq_true sharedKey
  have hrules : ∀ m ∈ s.ruleMembers, (m.1 == sharedKey) = false := by
    intro m hm
    obtain ⟨field, hfield, rfl⟩ := List.mem_map.mp hm
    rw [beq_eq_false_iff_ne]
    intro heq
    exact h (List.mem_map.mpr ⟨field, hfield, heq⟩)
  rw [List.partition_eq_filter_filter, List.filter_append, List.filter_append, Prod.mk.injEq]
  constructor
  · rw [List.filter_eq_self.mpr hshared, List.filter_eq_nil_iff.mpr, List.append_nil]
    intro m hm
    rw [hrules m hm]
    exact Bool.false_ne_true
  · rw [List.filter_eq_nil_iff.mpr, List.filter_eq_self.mpr, List.nil_append]
    · intro m hm
      rw [Function.comp_apply, hrules m hm]
      rfl
    · intro m hm
      rw [Function.comp_apply, hshared m hm]
      exact Bool.false_ne_true

theorem WellFormed.ofJson?_toJson (h : s.WellFormed) (hkey : sharedKey ∉ s.rules.map Prod.fst) :
    ofJson? s.toJson = some s := by
  rw [toJson_eq, ofJson?]
  dsimp only
  rw [partition_members hkey]
  simp only [h.readShared?_sharedMembers, h.readMap?_ruleMembers, Option.bind_eq_bind,
    Option.bind_some]

/-- Objects around values that are not nested too deep and hold no number. -/
theorem shallow_obj {n : Nat} {ms : List (String × Json)}
    (h : ∀ m ∈ ms, m.2.numberFree = true ∧ m.2.depth ≤ n) :
    (Json.obj ms).numberFree = true ∧ (Json.obj ms).depth ≤ n + 1 :=
  ⟨Json.numberFreeMembers_iff.mpr fun m hm => (h m hm).1,
    Nat.succ_le_succ (Json.depthMembers_le.mpr fun m hm => (h m hm).2)⟩

theorem shallow_map {α : Type} {n : Nat} (write : α → Json)
    (h : ∀ a, (write a).numberFree = true ∧ (write a).depth ≤ n) (m : List (String × α)) :
    let v := Json.obj (m.map fun p => (p.1, write p.2))
    v.numberFree = true ∧ v.depth ≤ n + 1 := by
  refine shallow_obj fun q hq => ?_
  obtain ⟨p, -, rfl⟩ := List.mem_map.mp hq
  exact h p.2

/-- A sheet's document has three levels and no number. -/
theorem shallow_toJson (s : StyleSheet) : s.toJson.numberFree = true ∧ s.toJson.depth ≤ 3 := by
  have hdeclarations := shallow_map Json.str fun _ => ⟨rfl, Nat.le_refl 0⟩
  have hvalues := shallow_map ofDeclarations hdeclarations
  refine shallow_obj fun m hm => ?_
  rcases List.mem_append.mp hm with hm | hm
  · obtain ⟨ds, -, rfl⟩ := List.mem_map.mp hm
    exact ⟨(hdeclarations ds).1, Nat.le_succ_of_le (hdeclarations ds).2⟩
  · obtain ⟨field, -, rfl⟩ := List.mem_map.mp hm
    exact hvalues field.2

/-- A sheet that a document holds, read from JSON or from TOML, has no field under the name of the
shared block. The sheet's own document, on one line or indented, holds the same sheet. -/
theorem read?_toJson {v : Json} {s : StyleSheet} (h : ofJson? v = some s) :
    "common" ∉ s.rules.map Prod.fst ∧
      (Json.read? s.toJson.compact).bind ofJson? = some s ∧
      (Json.read? s.toJson.pretty).bind ofJson? = some s := by
  obtain ⟨hs, hkey⟩ := wellFormed_of_ofJson? h
  obtain ⟨hnumbers, hdepth⟩ := s.shallow_toJson
  have hroom : s.toJson.depth ≤ Json.maxDepth := Nat.le_trans hdepth (by decide)
  refine ⟨hkey, ?_, ?_⟩
  · rw [Json.read?_compact hnumbers hroom, Option.bind_some, hs.ofJson?_toJson hkey]
  · rw [Json.read?_pretty hnumbers hroom, Option.bind_some, hs.ofJson?_toJson hkey]

/-- An empty block and an empty rule are kept, and quotes and control characters are escaped. -/
theorem read?_toJson_toml :
    let text := "[name.\"*\"]\n\"\\\"x\\u0001\" = \"\\\\é\"\n[common]\n[level]\nINFO = \x7b\x7d\n"
    let s : StyleSheet :=
      ⟨some [], [("name", [("*", [("\"x\x01", "\\é")])]), ("level", [("INFO", [])])]⟩
    (Toml.read? text.toList).bind ofJson? = some s ∧
      (Json.read? s.toJson.compact).bind ofJson? = some s := by
  intro text s
  have htext : (Toml.read? text.toList).bind ofJson? = some s := by decide +kernel
  obtain ⟨v, -, hv⟩ := Option.bind_eq_some_iff.mp htext
  exact ⟨htext, (read?_toJson hv).2.1⟩

end Logline.StyleSheet
