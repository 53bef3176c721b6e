import Logline.Ordered
/-!
Ordered maps put together. Where every key stands once on both sides, a map with others put into it
has the keys of both in the order in which they were first put in, each once, with the last values.
-/
namespace Logline.Ordered

variable {α : Type}

/-- Whether every key stands once. -/
def UniqueKeys (m : List (String × α)) : Prop :=
  (m.map Prod.fst).Nodup

instance (m : List (String × α)) : Decidable (UniqueKeys m) :=
  inferInstanceAs (Decidable (m.map Prod.fst).Nodup)

theorem UniqueKeys.nil : UniqueKeys ([] : List (String × α)) :=
  List.nodup_nil

theorem putAll_cons (base : List (String × α)) (p : String × α) (added : List (String × α)) :
    putAll base (p :: added) = putAll (put p.1 p.2 base) added := rfl

theorem put_of_notMem {key : String} {m : List (String × α)} (h : key ∉ m.map Prod.fst)
    (value : α) : put key value m = m ++ [(key, value)] := by
  induction m with
  | nil => rfl
  | cons p m ih =>
    rw [List.map_cons, List.mem_cons, not_or] at h
    rw [put, if_neg (Ne.symm h.1), ih h.2, List.cons_append]

theorem put_of_mem {key : String} {m : List (String × α)} (hm : UniqueKeys m)
    (h : key ∈ m.map Prod.fst) (value : α) :
    put key value m = m.map fun p => (p.1, if p.1 = key then value else p.2) := by
  induction m with
  | nil => cases h
  | cons p m ih =>
    obtain ⟨hp, hm⟩ := List.nodup_cons.mp hm
    rw [put, List.map_cons]
    by_cases hkey : p.1 = key
    · have hrest : m.map (fun q => (q.1, if q.1 = key then value else q.2)) = m := by
        refine (List.map_congr_left fun q hq => ?_).trans (List.map_id m)
        have hne : q.1 ≠ key := by
          rintro rfl
          exact hp (hkey ▸ List.mem_map_of_mem hq)
        rw [if_neg hne]
        rfl
      rw [if_pos hkey, if_pos hkey, hrest, hkey]
    · rw [List.map_cons, List.mem_cons] at h
      rw [if_neg hkey, if_neg hkey, ih hm (h.resolve_left (Ne.symm hkey))]

theorem unique_putAll {base : List (String × α)} (h : UniqueKeys base) (added : List (String × α)) :
    UniqueKeys (putAll base added) := by
  induction added generalizing base with
  | nil => exact h
  | cons p added ih => exact ih (nodup_put h p.1 p.2)

theorem lookup_eq_none_of_notMem {key : String} {m : List (String × α)}
    (h : key ∉ m.map Prod.fst) : m.lookup key = none := by
  rw [List.lookup_eq_none_iff]
  intro p hp
  rw [bne_iff_ne]
  rintro rfl
  exact h (List.mem_map_of_mem hp)

theorem mem_of_lookup {key : String} {value : α} {m : List (String × α)}
    (h : m.lookup key = some value) : (key, value) ∈ m := by
  obtain ⟨front, rest, rfl, -⟩ := List.lookup_eq_some_iff.mp h
  exact List.mem_append_right front List.mem_cons_self

theorem lookup_cons_eq (key : String) (p : String × α) (m : List (String × α)) :
    (p :: m).lookup key = if key = p.1 then some p.2 else m.lookup key := by
  rw [List.lookup_cons]
  by_cases h : key = p.1
  · rw [if_pos h, h, beq_self_eq_true]
  · rw [if_neg h, beq_eq_false_iff_ne.mpr h]

/-- Keys that are there keep their places, with the added values where there are some, and the other
added keys come behind them in their order. -/
theorem putAll_eq {base added : List (String × α)} (hbase : UniqueKeys base)
    (hadded : UniqueKeys added) :
    putAll base added =
      base.map (fun p => (p.1, (added.lookup p.1).getD p.2)) ++
        added.filter (fun p => p.1 ∉ base.map Prod.fst) := by
  induction added generalizing base with
  | nil => simp
  | cons q added ih =>
    obtain ⟨hq, hadded⟩ := List.nodup_cons.mp hadded
    have hlookup : added.lookup q.1 = none := lookup_eq_none_of_notMem hq
    rw [putAll_cons, ih (nodup_put hbase q.1 q.2) hadded]
    by_cases hmem : q.1 ∈ base.map Prod.fst
    · have hkeys : (put q.1 q.2 base).map Prod.fst = base.map Prod.fst := by
        rw [keys_put, if_pos hmem]
      rw [hkeys, List.filter_cons_of_neg (by simpa using hmem), put_of_mem hbase hmem, List.map_map]
      refine congrArg (· ++ _) (List.map_congr_left fun p _ => ?_)
      rw [Function.comp_apply, lookup_cons_eq]
      by_cases hp : p.1 = q.1
      · rw [if_pos hp, if_pos hp, hp, hlookup]
        rfl
      · rw [if_neg hp, if_neg hp]
    · have hkeys : (put q.1 q.2 base).map Prod.fst = base.map Prod.fst ++ [q.1] := by
        rw [keys_put, if_neg hmem]
      have hfilter : added.filter (fun p => p.1 ∉ base.map Prod.fst ++ [q.1]) =
          added.filter (fun p => p.1 ∉ base.map Prod.fst) := by
        apply List.filter_congr
        intro p hp
        have hne : p.1 ≠ q.1 := by
          intro heq
          exact hq (heq ▸ List.mem_map_of_mem hp)
        simp [hne]
      have hmap : base.map (fun p => (p.1, (added.lookup p.1).getD p.2)) =
          base.map (fun p => (p.1, ((q :: added).lookup p.1).getD p.2)) := by
        apply List.map_congr_left
        intro p hp
        have hne : p.1 ≠ q.1 := by
          intro heq
          exact hmem (heq ▸ List.mem_map_of_mem hp)
        rw [lookup_cons_eq, if_neg hne]
      rw [hkeys, hfilter, put_of_notMem hmem, List.map_append, hmap,
        List.filter_cons_of_pos (by simpa using hmem), List.append_assoc, List.map_singleton, hlookup]
      rfl

theorem ofList_of_unique {m : List (String × α)} (h : UniqueKeys m) : ofList m = m := by
  rw [ofList, putAll_eq .nil h]
  simp

theorem unique_ofList (pairs : List (String × α)) : UniqueKeys (ofList pairs) :=
  unique_putAll .nil pairs

theorem forall_mem_put {P : String × α → Prop} {key : String} {value : α}
    {m : List (String × α)} (hp : P (key, value)) (h : ∀ p ∈ m, P p) :
    ∀ p ∈ put key value m, P p := by
  induction m with
  | nil =>
    rw [put_nil]
    exact List.forall_mem_singleton.mpr hp
  | cons q m ih =>
    obtain ⟨hq, hm⟩ := List.forall_mem_cons.mp h
    rw [put]
    split
    · exact List.forall_mem_cons.mpr ⟨hp, hm⟩
    · exact List.forall_mem_cons.mpr ⟨hq, ih hm⟩

/-- What holds of all pairs on both sides holds of all pairs together. -/
theorem forall_mem_putAll {P : String × α → Prop} {base added : List (String × α)}
    (hbase : ∀ p ∈ base, P p) (hadded : ∀ p ∈ added, P p) : ∀ p ∈ putAll base added, P p := by
  induction added generalizing base with
  | nil => exact hbase
  | cons q added ih =>
    obtain ⟨hq, hadded⟩ := List.forall_mem_cons.mp hadded
    exact ih (forall_mem_put hq hbase) hadded

theorem forall_mem_ofList {P : String × α → Prop} {pairs : List (String × α)}
    (h : ∀ p ∈ pairs, P p) : ∀ p ∈ ofList pairs, P p := by
  refine forall_mem_putAll (fun p hp => ?_) h
  cases hp

theorem eraseDups_concat {β : Type} [BEq β] [LawfulBEq β] (l : List β) (a : β) :
    (l ++ [a]).eraseDups = if a ∈ l then l.eraseDups else l.eraseDups ++ [a] := by
  have hsingle : [a].eraseDups = [a] := by simp [List.eraseDups_cons]
  rw [List.eraseDups_append]
  by_cases h : a ∈ l
  · simp [h, List.removeAll]
  · simp [h, List.removeAll, hsingle]

/-- A key that was seen keeps its place among the keys, and a new one comes last. -/
theorem keys_put_eq {m : List (String × α)} {seen : List String}
    (h : m.map Prod.fst = seen.eraseDups) (key : String) (value : α) :
    (put key value m).map Prod.fst = (seen ++ [key]).eraseDups := by
  rw [keys_put, eraseDups_concat, h]
  simp only [List.mem_eraseDups]

theorem keys_putAll_eq {base : List (String × α)} {seen : List String}
    (h : base.map Prod.fst = seen.eraseDups) (added : List (String × α)) :
    (putAll base added).map Prod.fst = (seen ++ added.map Prod.fst).eraseDups := by
  induction added generalizing base seen with
  | nil =>
    rw [List.map_nil, List.append_nil]
    exact h
  | cons p added ih =>
    rw [putAll_cons, ih (keys_put_eq h p.1 p.2), List.map_cons, List.append_assoc,
      List.singleton_append]

/-- Keys stand in the order in which they were first put in. -/
theorem keys_ofList (pairs : List (String × α)) :
    (ofList pairs).map Prod.fst = (pairs.map Prod.fst).eraseDups := by
  have hempty : ([] : List (String × α)).map Prod.fst = ([] : List String).eraseDups := rfl
  exact keys_putAll_eq hempty pairs

/-- Every key has the value that it was last put in with. -/
theorem lookup_putAll (base added : List (String × α)) (key : String) :
    (putAll base added).lookup key = (added.reverse.lookup key).or (base.lookup key) := by
  induction added generalizing base with
  | nil => rfl
  | cons p added ih =>
    rw [putAll_cons, ih, lookup_put, List.reverse_cons, List.lookup_append, lookup_cons_eq,
      List.lookup_nil, Option.or_assoc]
    split <;> rfl

theorem lookup_ofList (pairs : List (String × α)) (key : String) :
    (ofList pairs).lookup key = pairs.reverse.lookup key := by
  rw [ofList, lookup_putAll, List.lookup_nil, Option.or_none]

theorem UniqueKeys.lookup_reverse {m : List (String × α)} (h : UniqueKeys m) (key : String) :
    m.reverse.lookup key = m.lookup key := by
  rw [← lookup_ofList, ofList_of_unique h]

theorem UniqueKeys.lookup_of_mem {m : List (String × α)} (h : UniqueKeys m) {p : String × α}
    (hp : p ∈ m) : m.lookup p.1 = some p.2 := by
  induction m with
  | nil => cases hp
  | cons q m ih =>
    obtain ⟨hq, hm⟩ := List.nodup_cons.mp h
    rw [lookup_cons_eq]
    rcases List.mem_cons.mp hp with rfl | hmem
    · rw [if_pos rfl]
    · have hne : p.1 ≠ q.1 := by
        intro heq
        exact hq (heq ▸ List.mem_map_of_mem hmem)
      rw [if_neg hne, ih hm hmem]

theorem UniqueKeys.map_lookup {m : List (String × α)} (h : UniqueKeys m) :
    (m.map Prod.fst).map (fun key => (key, m.lookup key)) = m.map fun p => (p.1, some p.2) := by
  rw [List.map_map]
  refine List.map_congr_left fun p hp => ?_
  rw [Function.comp_apply, h.lookup_of_mem hp]

/-- A map is told by its keys in their order and the values found under them. -/
theorem UniqueKeys.eq_of_lookup {m n : List (String × α)} (hm : UniqueKeys m) (hn : UniqueKeys n)
    (hkeys : m.map Prod.fst = n.map Prod.fst) (h : ∀ key, m.lookup key = n.lookup key) :
    m = n := by
  have hpairs : m.map (fun p => (p.1, some p.2)) = n.map fun p => (p.1, some p.2) := by
    rw [← hm.map_lookup, ← hn.map_lookup, hkeys]
    simp only [h]
  refine (List.map_inj_right ?_).mp hpairs
  rintro ⟨k, v⟩ ⟨l, w⟩ heq
  simpa using heq

theorem keys_putAll {base added : List (String × α)} (hbase : UniqueKeys base)
    (hadded : UniqueKeys added) :
    (putAll base added).map Prod.fst =
      base.map Prod.fst ++ (added.map Prod.fst).filter (· ∉ base.map Prod.fst) := by
  rw [putAll_eq hbase hadded, List.map_append, List.map_map, List.filter_map]
  rfl

/-- What was put in can be put in again without a change. -/
theorem putAll_putAll {base added : List (String × α)} (hbase : UniqueKeys base)
    (hadded : UniqueKeys added) : putAll base (putAll base added) = putAll base added := by
  have hall := unique_putAll hbase added
  refine (unique_putAll hbase _).eq_of_lookup hall ?_ ?_
  · rw [keys_putAll hbase hall, keys_putAll hbase hadded, List.filter_append, List.filter_filter]
    simp
  · intro key
    rw [lookup_putAll, hall.lookup_reverse, lookup_putAll, Option.or_assoc, Option.or_self]

end Logline.Ordered
