import Logline.Palette
import Logline.Proofs.Ordered
/-!
Runs of a color store. Whatever the order of the calls, a value keeps the color of its first call,
and that color is told by the number of values that its namespace had before. A random color is a
number sign and six digits, and drawing goes on until it is none of the palette's in either case of
letters.
-/
namespace Logline

namespace Palette

/-- A color written as a number sign and six hexadecimal digits. -/
def IsHexadecimal (color : String) : Prop :=
  ∃ digits : List Char, color.toList = '#' :: digits ∧ digits.length = 6 ∧
    ∀ c ∈ digits, c ∈ "0123456789abcdef".toList

/-- A color that is not in the palette, whatever the case of its letters. -/
def Outside (color : String) : Prop :=
  ∀ c ∈ colors, color.toList.map Char.toLower ≠ c.toList.map Char.toLower

theorem isTaken_eq_false_iff {color : String} : isTaken color = false ↔ Outside color := by
  rw [isTaken, List.any_eq_false, Outside]
  refine forall_congr' fun c => forall_congr' fun _ => ?_
  rw [beq_iff_eq, eq_comm, Text.lowerAscii, Text.lowerAscii]

theorem digitChar_mem : ∀ n < 16, Nat.digitChar n ∈ "0123456789abcdef".toList := by
  decide

theorem isHexadecimal_hexadecimal (code : Nat) : IsHexadecimal (hexadecimal code) := by
  refine ⟨_, String.toList_ofList, ?_, ?_⟩
  · rw [List.length_map, List.length_reverse, List.length_range]
  · intro c hc
    obtain ⟨i, -, rfl⟩ := List.mem_map.mp hc
    exact digitChar_mem _ (Nat.mod_lt _ (by decide))

theorem nodup_colors : colors.Nodup := by
  decide

end Palette

namespace Draws

/-- Drawing goes on to the first draw that is no palette color, and there is one. -/
theorem exists_next (d : Draws) (n : Nat) :
    ∃ m, n ≤ m ∧ d.next n = (d.color m, m + 1) ∧ Palette.Outside (d.color m) ∧
      ∀ k, n ≤ k → k < m → ¬ Palette.Outside (d.color k) := by
  fun_induction next d n with
  | case1 n htaken ih =>
    obtain ⟨m, hle, hnext, hfree, hfirst⟩ := ih
    refine ⟨m, Nat.le_of_succ_le hle, hnext, hfree, fun k hn hm => ?_⟩
    rcases Nat.eq_or_lt_of_le hn with rfl | hlt
    · rw [← Palette.isTaken_eq_false_iff, htaken]
      exact nofun
    · exact hfirst k hlt hm
  | case2 n hfree =>
    refine ⟨n, Nat.le_refl n, rfl, Palette.isTaken_eq_false_iff.mp (Bool.eq_false_iff.mpr hfree), ?_⟩
    omega

end Draws

namespace Palette

/-- Color of the value that has `i` others of its namespace before it: the palette's, as far as the
palette goes, and then a hexadecimal one outside it. -/
def Ranked (i : Nat) (color : String) : Prop :=
  match colors[i]? with
  | some c => color = c
  | none => IsHexadecimal color ∧ Outside color

theorem ranked_min (i : Nat) (color : String) :
    Ranked (min colors.length i) color ↔ Ranked i color := by
  rcases Nat.lt_or_ge i colors.length with h | h
  · rw [Nat.min_eq_right (Nat.le_of_lt h)]
  · rw [Nat.min_eq_left h, Ranked, Ranked, List.getElem?_eq_none (Nat.le_refl _),
      List.getElem?_eq_none h]

end Palette

namespace Allocator

/-- While the palette lasts, a namespace takes the next color of it and counts it. -/
theorem allocate_of_lt {a : Allocator} {space : String}
    (h : a.used space < Palette.colors.length) :
    a.allocate space =
      (Palette.colors[a.used space],
        { a with counters := Ordered.put space (a.used space + 1) a.counters }) := by
  rw [allocate, List.getElem?_eq_getElem h]

/-- After that it takes the next draw outside the palette, and nothing is counted. -/
theorem allocate_of_le {a : Allocator} {space : String}
    (h : Palette.colors.length ≤ a.used space) :
    ∃ draw, a.allocate space = (a.draws.color draw, { a with draw := draw + 1 }) ∧
      Palette.Outside (a.draws.color draw) := by
  obtain ⟨draw, -, hnext, houtside, -⟩ := a.draws.exists_next a.draw
  refine ⟨draw, ?_, houtside⟩
  rw [allocate, List.getElem?_eq_none h, hnext]

theorem ranked_allocate (a : Allocator) (space : String) :
    Palette.Ranked (a.used space) (a.allocate space).1 := by
  rw [Palette.Ranked]
  rcases Nat.lt_or_ge (a.used space) Palette.colors.length with h | h
  · rw [List.getElem?_eq_getElem h, allocate_of_lt h]
  · obtain ⟨draw, hallocate, houtside⟩ := allocate_of_le h
    rw [List.getElem?_eq_none h, hallocate]
    exact ⟨Palette.isHexadecimal_hexadecimal _, houtside⟩

/-- A namespace counts its colors until the palette is used up, and no other namespace does. -/
theorem used_allocate (a : Allocator) (space other : String) :
    (a.allocate space).2.used other =
      if other = space ∧ a.used space < Palette.colors.length then a.used space + 1
      else a.used other := by
  rcases Nat.lt_or_ge (a.used space) Palette.colors.length with h | h
  · rw [allocate_of_lt h, used, Ordered.lookup_put]
    by_cases hother : other = space
    · rw [if_pos hother, if_pos ⟨hother, h⟩, Option.getD_some]
    · rw [if_neg hother, if_neg fun hand => hother hand.1, used]
  · obtain ⟨draw, hallocate, -⟩ := allocate_of_le h
    rw [hallocate, if_neg fun hand => absurd hand.2 (Nat.not_lt.mpr h), used, used]

end Allocator

namespace ColorStore
open Ordered (eraseDups_concat)

/-- Colors of calls in order, each for a namespace and a value, and the store after them. -/
def colorsFor (s : ColorStore) : List (String × String) → List String × ColorStore
  | [] => ([], s)
  | q :: qs =>
    let (color, s) := s.colorFor q.1 q.2
    let (rest, s) := colorsFor s qs
    (color :: rest, s)

theorem colorsFor_cons (s : ColorStore) (q : String × String) (qs : List (String × String)) :
    s.colorsFor (q :: qs) =
      ((s.colorFor q.1 q.2).1 :: ((s.colorFor q.1 q.2).2.colorsFor qs).1,
        ((s.colorFor q.1 q.2).2.colorsFor qs).2) := rfl

/-- Color that a store has given to a value of a namespace. -/
def colorOf (s : ColorStore) (q : String × String) : String :=
  (s.assigned.lookup q).getD ""

/-- Values of a namespace in the order of their first calls. -/
def valuesOf (space : String) (calls : List (String × String)) : List String :=
  ((calls.filter (·.1 == space)).map Prod.snd).eraseDups

theorem mem_valuesOf {space value : String} {calls : List (String × String)} :
    value ∈ valuesOf space calls ↔ (space, value) ∈ calls := by
  rw [valuesOf, List.mem_eraseDups, List.mem_map]
  constructor
  · rintro ⟨⟨other, v⟩, hq, rfl⟩
    obtain ⟨hmem, hspace⟩ := List.mem_filter.mp hq
    exact eq_of_beq hspace ▸ hmem
  · intro h
    exact ⟨(space, value), List.mem_filter.mpr ⟨h, beq_self_eq_true space⟩, rfl⟩

/-- A pair that is called for the first time brings its namespace one more value. -/
theorem valuesOf_concat (space : String) (calls : List (String × String)) (q : String × String) :
    valuesOf space (calls ++ [q]) =
      if q.1 = space ∧ q ∉ calls then valuesOf space calls ++ [q.2] else valuesOf space calls := by
  by_cases hspace : q.1 = space
  · subst hspace
    have hmem : q.2 ∈ (calls.filter (·.1 == q.1)).map Prod.snd ↔ q ∈ calls := by
      rw [← List.mem_eraseDups]
      exact mem_valuesOf
    have hlast : [q].filter (·.1 == q.1) = [q] := by simp
    rw [valuesOf, List.filter_append, hlast, List.map_append, List.map_singleton,
      eraseDups_concat]
    by_cases hq : q ∈ calls
    · rw [if_pos (hmem.mpr hq), if_neg (by simp [hq]), valuesOf]
    · rw [if_neg fun h => hq (hmem.mp h), if_pos ⟨rfl, hq⟩, valuesOf]
  · have hlast : [q].filter (·.1 == space) = [] := by simp [hspace]
    rw [valuesOf, List.filter_append, hlast, List.append_nil, if_neg fun h => hspace h.1, valuesOf]

/-- What a store holds after calls: every pair once in the order of the first calls, for each
namespace the number of its values as far as the palette goes, and for every value a color that is
told by the number of values before it. -/
structure Follows (calls : List (String × String)) (s : ColorStore) : Prop where
  keys : s.assigned.map Prod.fst = calls.eraseDups
  used : ∀ space,
    s.allocator.used space = min Palette.colors.length (valuesOf space calls).length
  ranked : ∀ space i value, (valuesOf space calls)[i]? = some value →
    ∃ color, s.assigned.lookup (space, value) = some color ∧ Palette.Ranked i color

variable {calls : List (String × String)} {s : ColorStore}

theorem Follows.empty (draws : Draws) : Follows [] (empty draws) := by
  constructor
  · rfl
  · intro space
    rfl
  · intro space i value h
    cases h

theorem colorFor_of_lookup {q : String × String} {color : String}
    (h : s.assigned.lookup q = some color) : s.colorFor q.1 q.2 = (color, s) := by
  rw [colorFor, h]

theorem colorFor_of_lookup_none {q : String × String} (h : s.assigned.lookup q = none) :
    s.colorFor q.1 q.2 =
      ((s.allocator.allocate q.1).1,
        ⟨s.assigned ++ [(q, (s.allocator.allocate q.1).1)], (s.allocator.allocate q.1).2⟩) := by
  rw [colorFor, h]

/-- A call leaves the colors given before as they are. -/
theorem lookup_colorFor_of_some {p : String × String} {color : String}
    (h : s.assigned.lookup p = some color) (q : String × String) :
    (s.colorFor q.1 q.2).2.assigned.lookup p = some color := by
  cases hq : s.assigned.lookup q with
  | some given => rw [colorFor_of_lookup hq, h]
  | none => rw [colorFor_of_lookup_none hq, List.lookup_append, h, Option.some_or]

/-- The color of a call is kept. -/
theorem lookup_colorFor (s : ColorStore) (q : String × String) :
    (s.colorFor q.1 q.2).2.assigned.lookup q = some (s.colorFor q.1 q.2).1 := by
  cases hq : s.assigned.lookup q with
  | some given => rw [colorFor_of_lookup hq, hq]
  | none =>
    rw [colorFor_of_lookup_none hq, List.lookup_append, hq, Option.none_or]
    exact List.lookup_cons_self

theorem Follows.lookup_isSome (h : Follows calls s) {q : String × String} (hq : q ∈ calls) :
    ∃ color, s.assigned.lookup q = some color := by
  obtain ⟨i, hi⟩ := List.mem_iff_getElem?.mp (mem_valuesOf.mpr hq : q.2 ∈ valuesOf q.1 calls)
  obtain ⟨color, hcolor, -⟩ := h.ranked q.1 i q.2 hi
  exact ⟨color, hcolor⟩

theorem Follows.lookup_eq_none (h : Follows calls s) {q : String × String} (hq : q ∉ calls) :
    s.assigned.lookup q = none := by
  rw [List.lookup_eq_none_iff]
  intro p hp
  have hkey : p.1 ∈ calls := by
    rw [← List.mem_eraseDups, ← h.keys]
    exact List.mem_map_of_mem hp
  rw [bne_iff_ne]
  rintro rfl
  exact hq hkey

/-- A pair that was called before changes nothing. -/
theorem Follows.colorFor_of_mem (h : Follows calls s) {q : String × String} (hq : q ∈ calls) :
    Follows (calls ++ [q]) (s.colorFor q.1 q.2).2 := by
  obtain ⟨color, hcolor⟩ := h.lookup_isSome hq
  have hvalues (space : String) : valuesOf space (calls ++ [q]) = valuesOf space calls := by
    rw [valuesOf_concat, if_neg fun hand => hand.2 hq]
  rw [colorFor_of_lookup hcolor]
  constructor
  · rw [eraseDups_concat, if_pos hq, h.keys]
  · simpa only [hvalues] using h.used
  · simpa only [hvalues] using h.ranked

/-- A new pair takes the next color of its namespace. -/
theorem Follows.colorFor_of_notMem (h : Follows calls s) {q : String × String} (hq : q ∉ calls) :
    Follows (calls ++ [q]) (s.colorFor q.1 q.2).2 := by
  have hnone := h.lookup_eq_none hq
  have hself : valuesOf q.1 (calls ++ [q]) = valuesOf q.1 calls ++ [q.2] := by
    rw [valuesOf_concat, if_pos ⟨rfl, hq⟩]
  have hothers {space : String} (hspace : q.1 ≠ space) :
      valuesOf space (calls ++ [q]) = valuesOf space calls := by
    rw [valuesOf_concat, if_neg fun hand => hspace hand.1]
  have hranked : Palette.Ranked (valuesOf q.1 calls).length (s.colorFor q.1 q.2).1 := by
    rw [← Palette.ranked_min, ← h.used, colorFor_of_lookup_none hnone]
    exact s.allocator.ranked_allocate q.1
  constructor
  · rw [eraseDups_concat, if_neg hq, colorFor_of_lookup_none hnone, List.map_append, h.keys]
    rfl
  · intro space
    rw [colorFor_of_lookup_none hnone, Allocator.used_allocate]
    by_cases hspace : q.1 = space
    · subst hspace
      have hused := h.used q.1
      simp only [hself, List.length_append, List.length_singleton, true_and]
      split <;> omega
    · rw [hothers hspace, if_neg fun hand => hspace hand.1.symm, h.used]
  · -- only the last value of the pair's own namespace is new
    intro space i value hi
    by_cases hspace : q.1 = space
    · subst hspace
      rw [hself] at hi
      rcases Nat.lt_or_ge i (valuesOf q.1 calls).length with hlt | hge
      · rw [List.getElem?_append_left hlt] at hi
        obtain ⟨color, hcolor, hrank⟩ := h.ranked q.1 i value hi
        exact ⟨color, lookup_colorFor_of_some hcolor q, hrank⟩
      · rw [List.getElem?_append_right hge, List.getElem?_singleton] at hi
        split at hi
        · obtain rfl := Option.some.inj hi
          have hi : i = (valuesOf q.1 calls).length := by omega
          subst hi
          exact ⟨_, lookup_colorFor s q, hranked⟩
        · contradiction
    · rw [hothers hspace] at hi
      obtain ⟨color, hcolor, hrank⟩ := h.ranked space i value hi
      exact ⟨color, lookup_colorFor_of_some hcolor q, hrank⟩

theorem Follows.colorFor (h : Follows calls s) (q : String × String) :
    Follows (calls ++ [q]) (s.colorFor q.1 q.2).2 := by
  by_cases hq : q ∈ calls
  · exact h.colorFor_of_mem hq
  · exact h.colorFor_of_notMem hq

/-- A run of calls keeps to the calls made before it. -/
theorem Follows.colorsFor (h : Follows calls s) (qs : List (String × String)) :
    Follows (calls ++ qs) (s.colorsFor qs).2 := by
  induction qs generalizing calls s with
  | nil =>
    rw [List.append_nil]
    exact h
  | cons q qs ih =>
    rw [colorsFor_cons, List.append_cons]
    exact ih (h.colorFor q)

theorem lookup_colorsFor_of_some {p : String × String} {color : String}
    (h : s.assigned.lookup p = some color) (qs : List (String × String)) :
    (s.colorsFor qs).2.assigned.lookup p = some color := by
  induction qs generalizing s with
  | nil => exact h
  | cons q qs ih => exact ih (lookup_colorFor_of_some h q)

/-- Every call of a run has the color that the store holds for it in the end. -/
theorem colorsFor_eq_map (s : ColorStore) (qs : List (String × String)) :
    (s.colorsFor qs).1 = qs.map (s.colorsFor qs).2.colorOf := by
  induction qs generalizing s with
  | nil => rfl
  | cons q qs ih =>
    have hq := lookup_colorsFor_of_some (lookup_colorFor s q) qs
    rw [colorsFor_cons, List.map_cons, ih, colorOf, hq, Option.getD_some]

theorem Follows.ranked_colorOf (h : Follows calls s) {space value : String} {i : Nat}
    (hi : (valuesOf space calls)[i]? = some value) :
    Palette.Ranked i (s.colorOf (space, value)) := by
  obtain ⟨color, hcolor, hrank⟩ := h.ranked space i value hi
  rwa [colorOf, hcolor]

theorem Follows.size_eq (h : Follows calls s) : s.size = calls.eraseDups.length := by
  rw [size, ← List.length_map Prod.fst, h.keys]

/-- The values of a namespace have the colors of the palette in order, as far as it goes. -/
theorem Follows.map_colorOf_take (h : Follows calls s) (space : String) :
    ((valuesOf space calls).take 14).map (fun value => s.colorOf (space, value)) =
      Palette.colors.take (valuesOf space calls).length := by
  apply List.ext_getElem?
  intro i
  rw [List.getElem?_map, List.getElem?_take, List.getElem?_take]
  cases hi : (valuesOf space calls)[i]? with
  | none =>
    rw [if_neg (Nat.not_lt.mpr (List.getElem?_eq_none_iff.mp hi)), ite_self, Option.map_none]
  | some value =>
    obtain ⟨hlt, -⟩ := List.getElem?_eq_some_iff.mp hi
    have hrank := h.ranked_colorOf hi
    rw [if_pos hlt]
    rcases Nat.lt_or_ge i 14 with hpalette | hpalette
    · have hcolor : Palette.colors[i]? = some Palette.colors[i] := List.getElem?_eq_getElem hpalette
      rw [Palette.Ranked, hcolor] at hrank
      rw [if_pos hpalette, Option.map_some, hcolor, hrank]
    · rw [if_neg (Nat.not_lt.mpr hpalette), Option.map_none]
      exact (List.getElem?_eq_none hpalette).symm

theorem Follows.outside_of_mem_drop (h : Follows calls s) {space value : String}
    (hvalue : value ∈ (valuesOf space calls).drop 14) :
    Palette.IsHexadecimal (s.colorOf (space, value)) ∧
      Palette.Outside (s.colorOf (space, value)) := by
  obtain ⟨i, hi⟩ := List.mem_iff_getElem?.mp hvalue
  rw [List.getElem?_drop] at hi
  have hrank := h.ranked_colorOf hi
  have hnone : Palette.colors[14 + i]? = none := List.getElem?_eq_none (Nat.le_add_right 14 i)
  rwa [Palette.Ranked, hnone] at hrank

/-- In a run the calls for a pair all have one color. The first 14 values of a namespace have the
colors of the palette in order, all different, and later ones have hexadecimal colors outside it,
whatever is called for in other namespaces and whatever is drawn. After every number of calls the
store holds the different pairs and counts for each namespace the colors of the palette that it has
used. -/
theorem colorsFor_empty (draws : Draws) (calls : List (String × String)) :
    ∃ color : String × String → String,
      ((empty draws).colorsFor calls).1 = calls.map color ∧
      (∀ space, ((valuesOf space calls).take 14).map (fun value => color (space, value)) =
        Palette.colors.take (valuesOf space calls).length) ∧
      (∀ space, (((valuesOf space calls).take 14).map fun value => color (space, value)).Nodup) ∧
      (∀ space, ∀ value ∈ (valuesOf space calls).drop 14,
        Palette.IsHexadecimal (color (space, value)) ∧ Palette.Outside (color (space, value))) ∧
      ∀ n, let s := ((empty draws).colorsFor (calls.take n)).2
        s.size = (calls.take n).eraseDups.length ∧
          ∀ space, s.allocator.used space = min 14 (valuesOf space (calls.take n)).length := by
  have hfollows (qs : List (String × String)) :
      Follows qs ((empty draws).colorsFor qs).2 := (Follows.empty draws).colorsFor qs
  have htake := (hfollows calls).map_colorOf_take
  refine ⟨_, colorsFor_eq_map _ calls, htake, ?_, ?_, ?_⟩
  · intro space
    rw [htake]
    exact Palette.nodup_colors.sublist (List.take_sublist _ _)
  · intro space value hvalue
    exact (hfollows calls).outside_of_mem_drop hvalue
  · intro n
    exact ⟨(hfollows _).size_eq, (hfollows _).used⟩

/-- Pairs are told apart by their two texts, not by the two joined. -/
example : ((empty (.seeded 0)).colorsFor [("ab", "c"), ("a", "bc"), ("a", "b"), ("ab", "c")]).1 =
    ["#37455c", "#37455c", "#1da1f2", "#37455c"] := by
  decide +kernel

end ColorStore

end Logline
