import Logline.Message
import Logline.Proofs.Placeholder
/-!
Scanning templates. A template is read as items, single characters and placeholders, so that items
of a text can be put in front of the items of what follows it. Only a percent sign that the text
leaves open joins the two: it is doubled by a percent sign that comes next.
-/
namespace Logline.Template

/-- A character that is shown, or a placeholder with the text it was written as. -/
inductive Item where
  | char (c : Char)
  | placeholder (p : Placeholder) (source : List Char)
  deriving DecidableEq, Repr

/-- Items of a text that holds no placeholder. -/
def chars (cs : List Char) : List Item :=
  cs.map .char

@[simp] theorem chars_nil : chars [] = [] := rfl

@[simp] theorem chars_cons (c : Char) (cs : List Char) : chars (c :: cs) = .char c :: chars cs := rfl

def Item.isPlaceholder : Item → Bool
  | .char _ => false
  | .placeholder .. => true

/-- Number of placeholders among items. -/
def holes (is : List Item) : Nat :=
  is.countP Item.isPlaceholder

@[simp] theorem holes_chars (cs : List Char) : holes (chars cs) = 0 := by
  simp [holes, chars, List.countP_eq_zero, Item.isPlaceholder]

@[simp] theorem holes_append (is js : List Item) : holes (is ++ js) = holes is + holes js :=
  List.countP_append

@[simp] theorem holes_placeholder (p : Placeholder) (source : List Char) (is : List Item) :
    holes (.placeholder p source :: is) = holes is + 1 :=
  List.countP_cons_of_pos rfl

def Piece.items : Piece → List Item
  | .text t => chars t
  | .placeholder p source => [.placeholder p source]

def items (cs : List Char) : List Item :=
  (pieces cs).flatMap Piece.items

theorem flatMap_items_cons (c : Char) (ps : List Piece) :
    (cons c ps).flatMap Piece.items = .char c :: ps.flatMap Piece.items := by
  cases ps with
  | nil => rfl
  | cons p ps => cases p <;> rfl

@[simp] theorem items_nil : items [] = [] := by
  rw [items, pieces, List.flatMap_nil]

@[simp] theorem items_percent_percent (cs : List Char) :
    items ('%' :: '%' :: cs) = .char '%' :: items cs := by
  rw [items, pieces]
  rfl

theorem pieces_char (c : Char) (cs : List Char) (hc : c ≠ '%') :
    pieces (c :: cs) = cons c (pieces cs) := by
  rw [pieces]
  · intro ds h
    exact absurd h hc
  · exact hc

theorem items_char (c : Char) (cs : List Char) (hc : c ≠ '%') :
    items (c :: cs) = .char c :: items cs := by
  rw [items, pieces_char c cs hc, flatMap_items_cons, items]

/-- A percent sign is shown where neither a second one nor a placeholder follows it. -/
theorem pieces_percent (cs : List Char) (hcs : ∀ ds, cs ≠ '%' :: ds)
    (h : Placeholder.read cs = none) : pieces ('%' :: cs) = cons '%' (pieces cs) := by
  rw [pieces]
  · split
    · simp_all
    · rfl
  · exact hcs

theorem items_percent (cs : List Char) (hcs : ∀ ds, cs ≠ '%' :: ds)
    (h : Placeholder.read cs = none) : items ('%' :: cs) = .char '%' :: items cs := by
  rw [items, pieces_percent cs hcs h, flatMap_items_cons, items]

theorem pieces_placeholder (cs rest : List Char) (p : Placeholder)
    (h : Placeholder.read cs = some (p, rest)) :
    pieces ('%' :: cs) =
      .placeholder p ('%' :: cs.take (cs.length - rest.length)) :: pieces rest := by
  rw [pieces]
  · split
    · rename_i q hq
      obtain ⟨rfl, rfl⟩ : _ ∧ _ := by simpa [h] using hq
      rfl
    · simp_all
  · rintro ds rfl
    rw [Placeholder.read_percent] at h
    contradiction

theorem items_placeholder (cs rest : List Char) (p : Placeholder)
    (h : Placeholder.read cs = some (p, rest)) :
    items ('%' :: cs) =
      .placeholder p ('%' :: cs.take (cs.length - rest.length)) :: items rest := by
  rw [items, pieces_placeholder cs rest p h]
  rfl

/-- A placeholder that was written is one piece, whatever follows it. -/
theorem pieces_source (p : Placeholder) (hp : p.conversion ∈ Placeholder.conversions)
    (cs : List Char) :
    pieces (p.source ++ cs) = .placeholder p.limited p.source :: pieces cs := by
  rw [Placeholder.source_eq, List.cons_append,
    pieces_placeholder _ cs p.limited (Placeholder.read_spec p hp cs)]
  simp

theorem items_source (p : Placeholder) (hp : p.conversion ∈ Placeholder.conversions)
    (cs : List Char) :
    items (p.source ++ cs) = .placeholder p.limited p.source :: items cs := by
  rw [items, pieces_source p hp]
  rfl

theorem items_text_append (t cs : List Char) (ht : '%' ∉ t) :
    items (t ++ cs) = chars t ++ items cs := by
  induction t with
  | nil => rfl
  | cons c t ih =>
    rw [List.mem_cons, not_or] at ht
    rw [List.cons_append, items_char c _ (Ne.symm ht.1), ih ht.2, chars_cons, List.cons_append]

theorem items_text (t : List Char) (ht : '%' ∉ t) : items t = chars t := by
  have h := items_text_append t [] ht
  rwa [items_nil, List.append_nil, List.append_nil] at h

/-- The opener of a directive begins no placeholder. -/
theorem items_opener_append (cs : List Char) :
    items ('%' :: '(' :: cs) = chars ['%', '('] ++ items cs := by
  rw [items_percent _ (by simp) (Placeholder.read_parenthesis cs), items_char '(' cs (by decide)]
  rfl

/-- Whether a text ends with a percent sign that forms no pair with the one in front of it. A percent
sign that follows would form a pair with it. -/
def endsOpen (cs : List Char) : Bool :=
  cs.foldl (fun isOpen c => c == '%' && !isOpen) false

theorem endsOpen_percent_percent (cs : List Char) : endsOpen ('%' :: '%' :: cs) = endsOpen cs := rfl

theorem endsOpen_cons (c : Char) (cs : List Char) (hc : c ≠ '%') :
    endsOpen (c :: cs) = endsOpen cs := by
  rw [endsOpen, List.foldl_cons, beq_false_of_ne hc, Bool.false_and]
  rfl

theorem endsOpen_percent_cons (c : Char) (cs : List Char) (hc : c ≠ '%') :
    endsOpen ('%' :: c :: cs) = endsOpen cs := by
  rw [endsOpen, List.foldl_cons, List.foldl_cons, beq_false_of_ne hc, Bool.false_and]
  rfl

theorem endsOpen_append (cs ds : List Char) (hcs : '%' ∉ cs) :
    endsOpen (cs ++ ds) = endsOpen ds := by
  induction cs with
  | nil => rfl
  | cons c cs ih =>
    rw [List.mem_cons, not_or] at hcs
    rw [List.cons_append, endsOpen_cons c _ (Ne.symm hcs.1), ih hcs.2]

/-- In front of a percent sign a text is scanned as if nothing followed it, except that an open sign
takes the one that follows. -/
theorem items_append_percent (cs rest : List Char) :
    items (cs ++ '%' :: rest) = items cs ++ items (if endsOpen cs then rest else '%' :: rest) := by
  induction cs using pieces.induct with
  | case1 =>
    rw [items_nil]
    rfl
  | case2 cs ih =>
    rw [List.cons_append, List.cons_append, items_percent_percent, items_percent_percent, ih,
      endsOpen_percent_percent, List.cons_append]
  | case3 cs hcs p tail h ih =>
    obtain ⟨used, rfl, hused, hpercent⟩ := Placeholder.exists_of_read h
    have hread : Placeholder.read (used ++ tail ++ '%' :: rest) = some (p, tail ++ '%' :: rest) := by
      rw [Placeholder.read_append_percent, h]
      rfl
    have hopen : endsOpen ('%' :: (used ++ tail)) = endsOpen tail := by
      obtain ⟨c, used, rfl⟩ := List.exists_cons_of_ne_nil hused
      rw [List.mem_cons, not_or] at hpercent
      rw [List.cons_append, endsOpen_percent_cons c _ (Ne.symm hpercent.1),
        endsOpen_append _ _ hpercent.2]
    rw [List.cons_append, items_placeholder _ _ p hread, items_placeholder _ _ p h, hopen, ih]
    simp
  | case4 cs hcs h ih =>
    have hread : Placeholder.read (cs ++ '%' :: rest) = none := by
      rw [Placeholder.read_append_percent, h]
      rfl
    cases cs with
    | nil =>
      rw [items_percent [] (by simp) h, List.singleton_append, items_percent_percent]
      simp [endsOpen]
    | cons c cs =>
      have hc : c ≠ '%' := fun hc => hcs cs (by rw [hc])
      rw [List.cons_append, items_percent _ (by simp [hc]) hread, items_percent _ hcs h, ih,
        endsOpen_percent_cons c cs hc, endsOpen_cons c cs hc, List.cons_append]
  | case5 c cs hcs hc ih =>
    rw [List.cons_append, items_char c _ hc, items_char c _ hc, endsOpen_cons c cs hc, ih,
      List.cons_append]

end Logline.Template
