import Logline.Time.Pattern
/-!
Time patterns that do not serve. The check asks a library for the components of a pattern, and writing
a time asks it for the text. If the library stops writing where its reader finds a component that does
not exist, the two agree: what was written up to there is cleared, the text of a time is the whole
text of its pattern or of the default one, and checking the pattern beforehand changes nothing. The
library that the program runs with is of this kind.
-/
namespace Logline.Time

namespace Library

/-- Writing stops in every pattern that has a component which does not exist. -/
def StopsAtInvalid (lib : Library) : Prop :=
  ∀ pattern t out, .invalid ∈ lib.items pattern → (lib.write pattern t out).complete = false

/-- The default pattern is written to its end. -/
def WritesDefault (lib : Library) : Prop :=
  ∀ t, (lib.write Pattern.default t []).complete = true

/-- Whether a text is all that a pattern gives for a time. -/
def Renders (lib : Library) (pattern : List Char) (t : LocalTime) (text : List Char) : Prop :=
  lib.write pattern t [] = ⟨text, true⟩

instance (lib : Library) (pattern : List Char) (t : LocalTime) (text : List Char) :
    Decidable (lib.Renders pattern t text) :=
  inferInstanceAs (Decidable (_ = _))

variable {lib : Library} {pattern : List Char} {t : LocalTime}

theorem renders_of_complete (h : (lib.write pattern t []).complete = true) :
    lib.Renders pattern t (lib.write pattern t []).text := by
  rw [Renders, ← h]

theorem checked_of_mem (h : .invalid ∈ lib.items pattern) : lib.checked pattern = Pattern.default :=
  if_pos h

theorem checked_of_notMem (h : .invalid ∉ lib.items pattern) : lib.checked pattern = pattern :=
  if_neg h

theorem checked_default (lib : Library) : lib.checked Pattern.default = Pattern.default :=
  ite_self _

theorem format_of_complete (hpattern : pattern ≠ [])
    (h : (lib.write pattern t []).complete = true) :
    lib.format pattern t = (lib.write pattern t []).text := by
  rw [format, if_neg hpattern, if_pos h]

theorem format_default (lib : Library) (t : LocalTime) :
    lib.format Pattern.default t = (lib.write Pattern.default t []).text := by
  rw [format, ite_self]
  exact ite_self _

/-- Nothing is left of what was written before the writing stopped. -/
theorem format_of_stopped (h : pattern = [] ∨ (lib.write pattern t []).complete = false) :
    lib.format pattern t = (lib.write Pattern.default t []).text := by
  by_cases hpattern : pattern = []
  · rw [format, if_pos hpattern]
    exact ite_self _
  · have hstopped := h.resolve_left hpattern
    rw [format, if_neg hpattern, hstopped, if_neg Bool.false_ne_true]

/-- A library that stops writing where a component does not exist, and that writes the default pattern
to its end, shows every time by a checked pattern as by the pattern itself. A checked pattern has no
component that does not exist, it is the pattern itself if that has none, and checking it again
changes nothing. The text of a time is always all that the pattern or the default one gives. It is
that of the default one if the pattern is empty, if a component of it does not exist, or if the
writing stops, and else it is that of the pattern. -/
theorem format_checked (lib : Library) (hstops : lib.StopsAtInvalid) (hdefault : lib.WritesDefault)
    (pattern : List Char) (t : LocalTime) :
    lib.format (lib.checked pattern) t = lib.format pattern t ∧
      lib.checked (lib.checked pattern) = lib.checked pattern ∧
      .invalid ∉ lib.items (lib.checked pattern) ∧
      (.invalid ∉ lib.items pattern → lib.checked pattern = pattern) ∧
      (lib.Renders pattern t (lib.format pattern t) ∨
        lib.Renders Pattern.default t (lib.format pattern t)) ∧
      (pattern = [] ∨ .invalid ∈ lib.items pattern ∨ (lib.write pattern t []).complete = false →
        lib.Renders Pattern.default t (lib.format pattern t)) ∧
      (pattern ≠ [] → (lib.write pattern t []).complete = true →
        lib.Renders pattern t (lib.format pattern t)) := by
  have hvalid : .invalid ∉ lib.items Pattern.default := by
    intro hmem
    have hstopped := hstops Pattern.default t [] hmem
    rw [hdefault t] at hstopped
    cases hstopped
  have hfallback (h : pattern = [] ∨ (lib.write pattern t []).complete = false) :
      lib.Renders Pattern.default t (lib.format pattern t) := by
    rw [format_of_stopped h]
    exact renders_of_complete (hdefault t)
  have hwhole (hpattern : pattern ≠ []) (h : (lib.write pattern t []).complete = true) :
      lib.Renders pattern t (lib.format pattern t) := by
    rw [format_of_complete hpattern h]
    exact renders_of_complete h
  refine ⟨?_, ?_, ?_, checked_of_notMem, ?_, ?_, hwhole⟩
  · by_cases hmem : .invalid ∈ lib.items pattern
    · rw [checked_of_mem hmem, format_default, format_of_stopped (.inr (hstops pattern t [] hmem))]
    · rw [checked_of_notMem hmem]
  · by_cases hmem : .invalid ∈ lib.items pattern
    · rw [checked_of_mem hmem, checked_default]
    · rw [checked_of_notMem hmem, checked_of_notMem hmem]
  · by_cases hmem : .invalid ∈ lib.items pattern
    · rwa [checked_of_mem hmem]
    · rwa [checked_of_notMem hmem]
  · by_cases hpattern : pattern = []
    · exact .inr (hfallback (.inl hpattern))
    · cases hcomplete : (lib.write pattern t []).complete with
      | true => exact .inl (hwhole hpattern hcomplete)
      | false => exact .inr (hfallback (.inr hcomplete))
  · rintro (hpattern | hmem | hstopped)
    · exact hfallback (.inl hpattern)
    · exact hfallback (.inr (hstops pattern t [] hmem))
    · exact hfallback (.inr hstopped)

end Library

namespace Pattern

theorem items_nil : items [] = [] := by
  rw [items]

theorem items_unknown {cs : List Char} (h : read cs = none) : items ('%' :: cs) = [.invalid] := by
  rw [items]
  split
  · rfl
  · rename_i hread
    rw [h] at hread
    cases hread

theorem items_specifier {cs rest : List Char} {front : List Item}
    (h : read cs = some (front, rest)) : items ('%' :: cs) = front ++ items rest := by
  rw [items]
  split
  · rename_i hread
    rw [h] at hread
    cases hread
  · rename_i hread
    rw [h] at hread
    cases hread
    rfl

theorem items_char {c : Char} (hc : c ≠ '%') (cs : List Char) :
    items (c :: cs) = .text [c] :: items cs := by
  rw [items]
  exact fun h => absurd h hc

theorem ne_mark_of_ofLetter {c : Char} {front : List Item} (h : ofLetter c = some front) :
    c ∉ ['-', '0', '_', '#', '.', '3', '6', '9', ':'] := by
  intro hmem
  have hnone : ['-', '0', '_', '#', '.', '3', '6', '9', ':'].all
      (fun d => (ofLetter d).isNone) = true := by decide
  have hc := List.all_eq_true.mp hnone c hmem
  rw [h] at hc
  cases hc

theorem read_letter {c : Char} {front : List Item} (h : ofLetter c = some front)
    (more : List Char) : read (c :: more) = some (front, more) := by
  have hmark := ne_mark_of_ofLetter h
  unfold read
  split <;> simp_all

/-- What a specifier stands for is told by its own characters, whatever follows them. -/
theorem read_word {cs rest : List Char} {front : List Item} (h : read cs = some (front, rest)) :
    ∃ word, cs = word ++ rest ∧ ∀ more, read (word ++ more) = some (front, more) := by
  unfold read at h
  split at h
  -- a mark of padding and a letter
  case h_1 c _ | h_2 c _ | h_3 c _ =>
    obtain ⟨items, hitems, heq⟩ := Option.map_eq_some_iff.mp h
    cases heq
    refine ⟨[_, c], rfl, fun more => ?_⟩
    exact congrArg (Option.map _) hitems
  -- words of two, three and four characters
  case h_4 | h_5 | h_9 | h_10 | h_11 | h_12 =>
    cases h
    exact ⟨[_, _], rfl, fun _ => rfl⟩
  case h_6 | h_7 | h_8 | h_13 =>
    cases h
    exact ⟨[_, _, _], rfl, fun _ => rfl⟩
  case h_14 =>
    cases h
    exact ⟨[_, _, _, _], rfl, fun _ => rfl⟩
  -- a letter alone, which is none of the characters that open longer words
  case h_15 c _ _ _ _ _ _ _ _ _ _ _ _ _ _ _ =>
    obtain ⟨items, hitems, heq⟩ := Option.map_eq_some_iff.mp h
    cases heq
    exact ⟨[c], rfl, read_letter hitems⟩
  case h_16 => cases h

theorem invalid_notMem_ofLetter {c : Char} {front : List Item} (h : ofLetter c = some front) :
    .invalid ∉ front := by
  unfold ofLetter at h
  split at h <;> cases h <;> decide

theorem invalid_notMem_padded {p : Padding} {c : Char} {front : List Item}
    (h : padded p c = some front) : .invalid ∉ front := by
  unfold padded at h
  split at h <;> cases h
  simp

/-- A specifier that exists has no component that does not. -/
theorem invalid_notMem_read {cs rest : List Char} {front : List Item}
    (h : read cs = some (front, rest)) : .invalid ∉ front := by
  unfold read at h
  split at h
  case h_1 | h_2 | h_3 =>
    obtain ⟨items, hitems, heq⟩ := Option.map_eq_some_iff.mp h
    cases heq
    exact invalid_notMem_padded hitems
  case h_15 =>
    obtain ⟨items, hitems, heq⟩ := Option.map_eq_some_iff.mp h
    cases heq
    exact invalid_notMem_ofLetter hitems
  all_goals
    cases h
    try decide

/-- Whether a specifier that does not exist stands somewhere in a pattern, behind a front in which all
specifiers exist. -/
def HasUnknown (pattern : List Char) : Prop :=
  ∃ front rest, pattern = front ++ '%' :: rest ∧ .invalid ∉ items front ∧ read rest = none

theorem items_append {front : List Char} (h : .invalid ∉ items front) (rest : List Char) :
    items (front ++ rest) = items front ++ items rest := by
  induction front using items.induct with
  | case1 =>
    rw [items_nil]
    rfl
  | case2 cs hread =>
    rw [items_unknown hread, List.mem_singleton] at h
    exact absurd rfl h
  | case3 cs own tail hread ih =>
    obtain ⟨word, rfl, hword⟩ := read_word hread
    rw [items_specifier hread, List.mem_append, not_or] at h
    rw [List.cons_append, List.append_assoc, items_specifier (hword _), ih h.2,
      items_specifier hread, List.append_assoc]
  | case4 c cs hc ih =>
    rw [items_char hc, List.mem_cons, not_or] at h
    rw [List.cons_append, items_char hc, ih h.2, items_char hc, List.cons_append]

theorem hasUnknown_of_mem {pattern : List Char} (h : .invalid ∈ items pattern) :
    HasUnknown pattern := by
  induction pattern using items.induct with
  | case1 =>
    rw [items_nil] at h
    cases h
  | case2 cs hread =>
    refine ⟨[], cs, rfl, ?_, hread⟩
    rw [items_nil]
    exact List.not_mem_nil
  | case3 cs own tail hread ih =>
    have hown := invalid_notMem_read hread
    rw [items_specifier hread, List.mem_append, or_iff_right hown] at h
    obtain ⟨front, rest, rfl, hfront, hrest⟩ := ih h
    obtain ⟨word, rfl, hword⟩ := read_word hread
    refine ⟨'%' :: (word ++ front), rest, ?_, ?_, hrest⟩
    · rw [List.cons_append, List.append_assoc]
    · rw [items_specifier (hword front), List.mem_append, not_or]
      exact ⟨hown, hfront⟩
  | case4 c cs hc ih =>
    rw [items_char hc, List.mem_cons, or_iff_right nofun] at h
    obtain ⟨front, rest, rfl, hfront, hrest⟩ := ih h
    refine ⟨c :: front, rest, rfl, ?_, hrest⟩
    rw [items_char hc, List.mem_cons, not_or]
    exact ⟨nofun, hfront⟩

/-- A component of a pattern does not exist if some specifier of it does not, however much stands
before it. -/
theorem invalid_mem_items_iff {pattern : List Char} :
    .invalid ∈ items pattern ↔ HasUnknown pattern := by
  constructor
  · exact hasUnknown_of_mem
  · rintro ⟨front, rest, rfl, hfront, hrest⟩
    rw [items_append hfront, items_unknown hrest]
    exact List.mem_append_right _ List.mem_cons_self

instance : DecidablePred HasUnknown := fun _ =>
  decidable_of_iff _ invalid_mem_items_iff

end Pattern

theorem Item.show?_eq_none_iff {t : LocalTime} {item : Item} :
    item.show? t = none ↔ item = .invalid ∨ item = .unshowable := by
  cases item <;> simp [show?]

/-- Writing goes on as long as components can be shown. -/
theorem complete_writeItems (t : LocalTime) (out : List Char) (items : List Item) :
    (writeItems t out items).complete = false ↔ .invalid ∈ items ∨ .unshowable ∈ items := by
  induction items generalizing out with
  | nil => simp [writeItems]
  | cons item items ih =>
    have hnone : item.show? t = none ↔ item = .invalid ∨ item = .unshowable :=
      Item.show?_eq_none_iff
    rw [writeItems]
    cases hshow : item.show? t with
    | none =>
      obtain rfl | rfl := hnone.mp hshow
      · exact iff_of_true rfl (.inl List.mem_cons_self)
      · exact iff_of_true rfl (.inr List.mem_cons_self)
    | some cs =>
      rw [hshow, iff_false_left nofun, not_or] at hnone
      dsimp only
      rw [ih, List.mem_cons, List.mem_cons, or_iff_right (Ne.symm hnone.1),
        or_iff_right (Ne.symm hnone.2)]

/-- A text is complete if it is made of the texts of all components in order. -/
theorem writeItems_eq_complete_iff {t : LocalTime} {out text : List Char} {items : List Item} :
    writeItems t out items = ⟨text, true⟩ ↔
      ∃ texts, items.mapM (Item.show? t) = some texts ∧ text = out ++ texts.flatten := by
  induction items generalizing out with
  | nil => simp [writeItems, eq_comm]
  | cons item items ih =>
    rw [writeItems, List.mapM_cons]
    cases item.show? t with
    | none => simp
    | some cs =>
      dsimp only
      rw [ih]
      cases items.mapM (Item.show? t) with
      | none => simp
      | some texts => simp [List.append_assoc]

open Pattern (HasUnknown)

/-- The library that the program runs with stops exactly where a specifier does not exist or cannot be
shown. -/
theorem complete_strftime_iff {pattern out : List Char} {t : LocalTime} :
    (strftime.write pattern t out).complete = false ↔
      HasUnknown pattern ∨ .unshowable ∈ Pattern.items pattern := by
  rw [← Pattern.invalid_mem_items_iff]
  exact complete_writeItems t out _

theorem stopsAtInvalid_strftime : strftime.StopsAtInvalid := by
  intro pattern t out hmem
  exact complete_strftime_iff.mpr (.inl (Pattern.invalid_mem_items_iff.mp hmem))

theorem writesDefault_strftime : strftime.WritesDefault := by
  intro t
  rw [← Bool.not_eq_false, complete_strftime_iff]
  decide +kernel

/-- A pattern renders a time as the texts of all its components in order. -/
theorem renders_strftime_iff {pattern text : List Char} {t : LocalTime} :
    strftime.Renders pattern t text ↔
      ∃ texts, (Pattern.items pattern).mapM (Item.show? t) = some texts ∧ text = texts.flatten :=
  writeItems_eq_complete_iff

/-- A specifier that cannot be shown passes the check, and what was written in front of it is
cleared. The clock is two hours ahead. -/
theorem format_checked_ahead :
    let pattern := "%H:%M %#z".toList
    let t : LocalTime := (⟨3600, 0⟩ : Instant).inZone fun _ => .ofSeconds 7200
    strftime.StopsAtInvalid ∧ strftime.WritesDefault ∧ strftime.checked pattern = pattern ∧
      strftime.write pattern t [] = ⟨"03:00 ".toList, false⟩ ∧
      strftime.format pattern t = "1970-01-01 03:00:00".toList := by
  intro pattern t
  have hwrite : strftime.write pattern t [] = ⟨"03:00 ".toList, false⟩ := by
    decide +kernel
  have hvalid : .invalid ∉ strftime.items pattern := by
    decide +kernel
  obtain ⟨-, -, -, hchecked, -, hfallback, -⟩ :=
    strftime.format_checked stopsAtInvalid_strftime writesDefault_strftime pattern t
  have hrenders := hfallback (.inr (.inr (congrArg Draft.complete hwrite)))
  have hdefault : strftime.Renders Pattern.default t "1970-01-01 03:00:00".toList := by
    decide +kernel
  exact ⟨stopsAtInvalid_strftime, writesDefault_strftime, hchecked hvalid, hwrite,
    congrArg Draft.text (hrenders.symm.trans hdefault)⟩

example :
    let t : LocalTime := (⟨0, 0⟩ : Instant).inZone fun _ => .ofSeconds (-34230)
    strftime.format "%T %z %:z %::z %:::z %Z %+".toList t =
      "14:29:30 -0931 -09:31 -09:30:30 -09 -09:30:30 1969-12-31T14:29:30-09:31".toList := by
  decide +kernel

end Logline.Time
