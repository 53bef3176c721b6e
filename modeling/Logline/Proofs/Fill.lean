import Logline.Proofs.Shows
/-!
Templates filled with values. The plain text of a message is its items with the values put in, and
then the values that are left over. How often a character stands in it can be compared for other
values in the same items.
-/
namespace Logline.Message
open Template

/-- Text of items with values for their placeholders, as far as there are any. -/
def fill : List Item → List Json → List Char
  | [], _ => []
  | .char c :: is, vs => c :: fill is vs
  | .placeholder _ source :: is, [] => source ++ fill is []
  | .placeholder p _ :: is, v :: vs =>
    (if p.conversion = 'c' then [] else p.format v) ++ fill is vs

theorem fill_append (is js : List Item) (vs : List Json) :
    fill (is ++ js) vs = fill is vs ++ fill js (vs.drop (holes is)) := by
  induction is generalizing vs with
  | nil => rfl
  | cons i is ih =>
    cases i with
    | char c => exact congrArg (c :: ·) (ih vs)
    | placeholder p source =>
      rw [List.cons_append, holes_placeholder]
      cases vs with
      | nil => rw [fill, fill, ih, List.drop_nil, List.drop_nil, List.append_assoc]
      | cons v vs => rw [fill, fill, ih, List.drop_succ_cons, List.append_assoc]

/-- Values behind those that items have placeholders for are not looked at. -/
theorem fill_values_append (is : List Item) (vs ws : List Json) (h : holes is ≤ vs.length) :
    fill is (vs ++ ws) = fill is vs := by
  induction is generalizing vs with
  | nil => rfl
  | cons i is ih =>
    cases i with
    | char c => exact congrArg (c :: ·) (ih vs h)
    | placeholder p source =>
      rw [holes_placeholder] at h
      cases vs with
      | nil => contradiction
      | cons v vs => rw [List.cons_append, fill, fill, ih vs (Nat.le_of_succ_le_succ h)]

/-- Items with a value for each placeholder leave the other values to the items behind them. -/
theorem fill_append_append {is : List Item} {vs : List Json} (h : holes is = vs.length)
    (js : List Item) (ws : List Json) :
    fill (is ++ js) (vs ++ ws) = fill is vs ++ fill js ws := by
  rw [fill_append, fill_values_append _ _ _ (Nat.le_of_eq h), h, List.drop_left]

theorem fill_chars (cs : List Char) (vs : List Json) : fill (chars cs) vs = cs := by
  induction cs with
  | nil => rfl
  | cons c cs ih => exact congrArg (c :: ·) ih

/-- A placeholder behind all values is shown as it was written. -/
theorem fill_unfilled (is : List Item) (p : Placeholder) (source : List Char) (vs : List Json)
    (h : vs.length ≤ holes is) :
    fill (is ++ [.placeholder p source]) vs = fill is vs ++ source := by
  rw [fill_append, List.drop_eq_nil_of_le h, fill, fill, List.append_nil]

theorem map_fst_cellsOf_fill (l : Look) (is : List Item) (vs : List Json) :
    (cellsOf l is vs).map Prod.fst = fill is vs ++ leftover .plain l (vs.drop (holes is)) := by
  induction is generalizing l vs with
  | nil => exact map_fst_leftoverCells l vs
  | cons i is ih =>
    cases i with
    | char c => exact congrArg (c :: ·) (ih l vs)
    | placeholder p source =>
      rw [holes_placeholder]
      cases vs with
      | nil =>
        rw [cellsOf, fill, List.map_append, Look.map_fst_cells, ih, List.drop_nil, List.drop_nil,
          List.append_assoc]
      | cons v vs =>
        rw [cellsOf, fill, List.drop_succ_cons]
        split
        · rw [ih]
          rfl
        · rw [List.map_append, Look.map_fst_cells, ih, List.append_assoc]

theorem toPlain_eq_fill (m : Message) :
    m.toPlain = fill (items m.template) m.values ++
      leftover .plain .plain (m.values.drop m.placeholders) := by
  rw [← map_fst_cells, cells, map_fst_cellsOf_fill, placeholders]

/-- Text of a message that is known up to the text at its end. -/
theorem toPlain_text_append (m : Message) (tail : List Char) (is : List Item)
    (h : items (m.template ++ tail) = is ++ items tail) :
    (m ++ (⟨tail, []⟩ : Message)).toPlain =
      fill is m.values ++ (fill (items tail) (m.values.drop (holes is)) ++
        leftover .plain .plain ((m.values.drop (holes is)).drop (holes (items tail)))) := by
  rw [← map_fst_cells, cells, template_append, values_append, List.append_nil, h,
    map_fst_cellsOf_fill, fill_append, holes_append, List.drop_drop, List.append_assoc]

/-- Values in whose text a character never stands. -/
def Lacks (c : Char) (vs : List Json) : Prop :=
  ∀ v ∈ vs, ∀ p : Placeholder, c ∉ p.format v

theorem Lacks.drop {c : Char} {vs : List Json} (h : Lacks c vs) (n : Nat) : Lacks c (vs.drop n) :=
  fun v hv => h v (List.mem_of_mem_drop hv)

theorem Lacks.count_leftover {c : Char} {vs : List Json} (h : Lacks c vs) (hc : c ≠ ' ') :
    (leftover .plain .plain vs).count c = 0 := by
  rw [List.count_eq_zero, leftover, List.mem_flatMap]
  rintro ⟨v, hv, hmem⟩
  rcases List.mem_cons.mp hmem with rfl | hmem
  · exact hc rfl
  · have hdisplay : Placeholder.format ⟨none, none, 's'⟩ v = v.display := by
      simp [Placeholder.format, Placeholder.body, Placeholder.capped, Decimal.padLeft]
    exact h v hv ⟨none, none, 's'⟩ (hdisplay ▸ hmem)

theorem Lacks.count_filled {c : Char} {v : Json} {vs : List Json} (h : Lacks c (v :: vs))
    (p : Placeholder) : (if p.conversion = 'c' then [] else p.format v).count c = 0 := by
  split
  · rfl
  · exact List.count_eq_zero.mpr (h v (by simp) p)

/-- Values that lack a character show it least often, if they fill all placeholders that others do. -/
theorem Lacks.count_fill_le {c : Char} {vs : List Json} (h : Lacks c vs) (is : List Item)
    (ws : List Json) (hlength : min ws.length (holes is) ≤ vs.length) :
    (fill is vs).count c ≤ (fill is ws).count c := by
  induction is generalizing vs ws with
  | nil => exact Nat.le_refl _
  | cons i is ih =>
    cases i with
    | char d =>
      have hrest := ih h ws hlength
      simp only [fill, List.count_cons]
      omega
    | placeholder p source =>
      rw [holes_placeholder] at hlength
      cases vs with
      | nil =>
        have hnil : ws = [] := by
          rw [← List.length_eq_zero_iff]
          rw [List.length_nil] at hlength
          omega
        subst hnil
        exact Nat.le_refl _
      | cons v vs =>
        have hvs : Lacks c vs := fun w hw => h w (List.mem_cons_of_mem _ hw)
        rw [fill, List.count_append, h.count_filled, Nat.zero_add]
        rw [List.length_cons] at hlength
        cases ws with
        | nil =>
          have hrest := ih hvs [] (by simp)
          rw [fill, List.count_append]
          omega
        | cons w ws =>
          rw [List.length_cons] at hlength
          have hrest := ih hvs ws (by omega)
          rw [fill, List.count_append]
          omega

end Logline.Message
