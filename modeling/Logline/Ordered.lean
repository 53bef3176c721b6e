/-!
Ordered maps as lists of pairs. Keys stand in the order in which they were first put in.
-/
namespace Logline.Ordered

variable {α : Type}

/-- Put a value under a key; one that is there already keeps its place and gets the new value. -/
def put (key : String) (value : α) : List (String × α) → List (String × α)
  | [] => [(key, value)]
  | (k, v) :: rest => if k = key then (key, value) :: rest else (k, v) :: put key value rest

/-- Put all pairs of the second list into the first, in order. -/
def putAll (base added : List (String × α)) : List (String × α) :=
  added.foldl (fun m p => put p.1 p.2 m) base

def ofList (pairs : List (String × α)) : List (String × α) :=
  putAll [] pairs

@[simp] theorem put_nil (key : String) (value : α) : put key value [] = [(key, value)] := rfl

@[simp] theorem putAll_nil (base : List (String × α)) : putAll base [] = base := rfl

theorem lookup_put (key l : String) (value : α) (m : List (String × α)) :
    (put key value m).lookup l = if l = key then some value else m.lookup l := by
  have beq (a b : String) : (a == b) = decide (a = b) := rfl
  induction m with
  | nil => by_cases h : l = key <;> simp [List.lookup_cons, beq, h]
  | cons p m ih =>
    obtain ⟨k, v⟩ := p
    by_cases hk : k = key
    · subst hk
      by_cases hl : l = k <;> simp [put, List.lookup_cons, beq, hl]
    · by_cases hl : l = k
      · subst hl; simp [put, hk]
      · simp [put, List.lookup_cons, beq, hk, hl, ih]

/-- A key that is there keeps its place, a new one comes last. -/
theorem keys_put (key : String) (value : α) (m : List (String × α)) :
    (put key value m).map Prod.fst =
      if key ∈ m.map Prod.fst then m.map Prod.fst else m.map Prod.fst ++ [key] := by
  induction m with
  | nil => simp
  | cons p m ih =>
    obtain ⟨k, v⟩ := p
    by_cases hk : k = key
    · simp [put, hk]
    · by_cases hm : key ∈ m.map Prod.fst <;> simp_all [put, Ne.symm hk]

theorem nodup_put {m : List (String × α)} (h : (m.map Prod.fst).Nodup) (key : String)
    (value : α) : ((put key value m).map Prod.fst).Nodup := by
  rw [keys_put]
  split
  · exact h
  · rename_i hk
    exact List.nodup_append.2 ⟨h, by simp, by grind⟩

end Logline.Ordered
