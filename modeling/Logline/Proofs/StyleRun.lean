import Logline.Proofs.ColorRun
import Logline.Proofs.StyledLine
import Mathlib.Data.List.Basic
/-!
Runs of a stylist. A request takes a color only if a rule applies to it and has a mark for one, and
all marks of the rule get the same. So the style of a value never changes, and the color in it is
told by the requests of its own field that take one, whatever else the stylist is asked for.
-/
namespace Logline

namespace Text

theorem replaceFirst_of_not_contains {part cs : List Char} (replacement : List Char)
    (h : contains part cs = false) : replaceFirst part replacement cs = cs := by
  induction cs with
  | nil => rfl
  | cons c cs ih =>
    rw [contains, Bool.or_eq_false_iff] at h
    rw [replaceFirst, if_neg (by simp [h.1]), ih h.2]

end Text

namespace StyleSheet

/-- Whether a declaration has a mark for a color. -/
def isMarked (d : String × String) : Bool :=
  Text.contains Stylist.colorMark d.2.toList

/-- Text of a declaration with a color in place of its first mark. -/
def declaration (color : String) (d : String × String) : List Char :=
  d.1.toList ++ ':' :: (Text.replaceFirst Stylist.colorMark color.toList d.2.toList ++ [';'])

/-- Style of a field's value that has the given color. -/
def styleWith? (sheet : StyleSheet) (color : String) (q : String × String) : Option String :=
  (sheet.rule? q.1 q.2).bind fun rule =>
    let text := (sheet.merged rule).flatMap (declaration color)
    if text = [] then none else some (String.ofList text)

/-- Whether a rule applies to a field's value and asks for a color of its own. -/
def takesColor (sheet : StyleSheet) (q : String × String) : Bool :=
  (sheet.rule? q.1 q.2).any fun rule => (sheet.merged rule).any isMarked

/-- Number of other values of its field that took a color before a request, or before the first of
several for the same value. -/
def place (sheet : StyleSheet) (run : List (String × String)) (q : String × String) : Nat :=
  (ColorStore.valuesOf q.1 (run.filter sheet.takesColor)).idxOf q.2

theorem declaration_of_not_isMarked {d : String × String} (h : isMarked d = false)
    (color : String) : declaration color d = d.1.toList ++ ':' :: (d.2.toList ++ [';']) := by
  rw [declaration, Text.replaceFirst_of_not_contains _ h]

theorem styleWith?_of_not_takesColor {sheet : StyleSheet} {q : String × String}
    (h : sheet.takesColor q = false) (color other : String) :
    sheet.styleWith? color q = sheet.styleWith? other q := by
  rw [takesColor] at h
  rw [styleWith?, styleWith?]
  cases hrule : sheet.rule? q.1 q.2 with
  | none => rfl
  | some rule =>
    rw [hrule, Option.any_some, List.any_eq_false] at h
    have hsame : (sheet.merged rule).flatMap (declaration color) =
        (sheet.merged rule).flatMap (declaration other) := by
      apply List.flatMap_congr
      intro d hd
      have hd : isMarked d = false := Bool.eq_false_iff.mpr (h d hd)
      rw [declaration_of_not_isMarked hd, declaration_of_not_isMarked hd]
    rw [Option.bind_some, Option.bind_some, hsame]

/-- The place of a value is told by the requests of its field that take a color. -/
theorem place_eq_of_filter_eq {sheet : StyleSheet} {run rest : List (String × String)}
    {q : String × String}
    (h : rest.filter (fun p => p.1 == q.1 && sheet.takesColor p) =
      run.filter (fun p => p.1 == q.1 && sheet.takesColor p)) :
    sheet.place rest q = sheet.place run q := by
  rw [place, place, ColorStore.valuesOf, ColorStore.valuesOf, List.filter_filter,
    List.filter_filter, h]

end StyleSheet

namespace ColorStore

/-- The color of a request is told by the place of its value among those of its namespace. -/
theorem Follows.ranked_colorFor {calls : List (String × String)} {s : ColorStore}
    (h : Follows calls s) (q : String × String) :
    Palette.Ranked ((valuesOf q.1 calls).idxOf q.2) (s.colorFor q.1 q.2).1 := by
  have hplace : (valuesOf q.1 (calls ++ [q]))[(valuesOf q.1 calls).idxOf q.2]? = some q.2 := by
    rw [valuesOf_concat]
    by_cases hq : q ∈ calls
    · rw [if_neg fun hand => hand.2 hq]
      exact List.getElem?_idxOf (mem_valuesOf.mpr hq)
    · have hvalue : q.2 ∉ valuesOf q.1 calls := fun hmem => hq (mem_valuesOf.mp hmem)
      rw [if_pos ⟨rfl, hq⟩, List.idxOf_eq_length hvalue]
      exact List.getElem?_concat_length
  obtain ⟨color, hcolor, hrank⟩ := (h.colorFor q).ranked q.1 _ q.2 hplace
  rw [lookup_colorFor] at hcolor
  exact Option.some.inj hcolor ▸ hrank

end ColorStore

namespace Stylist

open StyleSheet (isMarked declaration)

/-- A declaration takes the color of the value if it has a mark for it. -/
theorem declare_eq (colors : ColorStore) (field value : String) (d : String × String) :
    declare colors field value d =
      (declaration (colors.colorFor field value).1 d,
        if isMarked d then (colors.colorFor field value).2 else colors) := by
  rw [declare, isMarked]
  by_cases h : Text.contains colorMark d.2.toList = true
  · rw [if_pos h, if_pos h]
    rfl
  · rw [if_neg h, if_neg h, StyleSheet.declaration_of_not_isMarked (Bool.eq_false_iff.mpr h)]

/-- Declarations for a value that has its color already leave the colors as they are. -/
theorem declareAll_of_lookup {colors : ColorStore} {field value color : String}
    (h : colors.assigned.lookup (field, value) = some color) (ds : Declarations) :
    declareAll colors field value ds = (ds.flatMap (declaration color), colors) := by
  have hgiven : colors.colorFor field value = (color, colors) :=
    ColorStore.colorFor_of_lookup (q := (field, value)) h
  induction ds with
  | nil => rfl
  | cons d ds ih =>
    simp only [declareAll, declare_eq, hgiven, ite_self, ih]
    rfl

/-- All declarations have one color, and it is taken only if one of them has a mark for it. -/
theorem declareAll_eq (colors : ColorStore) (field value : String) (ds : Declarations) :
    declareAll colors field value ds =
      (ds.flatMap (declaration (colors.colorFor field value).1),
        if ds.any isMarked then (colors.colorFor field value).2 else colors) := by
  induction ds with
  | nil => rfl
  | cons d ds ih =>
    rw [declareAll, declare_eq, List.any_cons]
    by_cases h : isMarked d = true
    · -- the first mark takes the color, and the declarations behind find it there
      have hgiven := ColorStore.lookup_colorFor colors (field, value)
      simp only [h, if_pos, Bool.true_or, declareAll_of_lookup hgiven]
      rfl
    · simp only [h, Bool.false_or, ih, Bool.false_eq_true, if_false]
      rfl

/-- What a stylist answers with the color that the value has or takes now. -/
theorem style?_inline {s : Stylist} (h : s.support = .inline) (q : String × String) :
    s.style? q.1 q.2 =
      (s.sheet.styleWith? (s.colors.colorFor q.1 q.2).1 q,
        { s with colors :=
            if s.sheet.takesColor q then (s.colors.colorFor q.1 q.2).2 else s.colors }) := by
  obtain ⟨sheet, support, colors⟩ := s
  cases h
  rw [style?, StyleSheet.styleWith?, StyleSheet.takesColor]
  cases hrule : sheet.rule? q.1 q.2 with
  | none => rfl
  | some rule => simp only [declareAll_eq, Option.bind_some, Option.any_some]

/-- What a stylist answers once it has answered a run of other requests. -/
def styleAfter (s : Stylist) (run : List (String × String)) (q : String × String) :
    Option String :=
  ((s.styles run).2.style? q.1 q.2).1

theorem styles_append (s : Stylist) (run rest : List (String × String)) :
    s.styles (run ++ rest) =
      ((s.styles run).1 ++ ((s.styles run).2.styles rest).1, ((s.styles run).2.styles rest).2) := by
  induction run generalizing s with
  | nil => rfl
  | cons q run ih => simp only [List.cons_append, styles_cons, ih]

theorem length_styles (s : Stylist) (run : List (String × String)) :
    (s.styles run).1.length = run.length := by
  induction run generalizing s with
  | nil => rfl
  | cons q run ih => rw [styles_cons, List.length_cons, List.length_cons, ih]

/-- A run takes colors for the requests that take one, in order, and for no others. -/
theorem styles_inline {s : Stylist} (h : s.support = .inline) (run : List (String × String)) :
    (s.styles run).2 =
      { s with colors := (s.colors.colorsFor (run.filter s.sheet.takesColor)).2 } := by
  induction run generalizing s with
  | nil => rfl
  | cons q run ih =>
    have hrest := ih ((style?_support s q.1 q.2).trans h)
    rw [style?_sheet] at hrest
    rw [styles_cons, hrest, style?_inline h]
    by_cases hq : s.sheet.takesColor q = true
    · rw [List.filter_cons_of_pos hq, ColorStore.colorsFor_cons, if_pos hq]
    · rw [List.filter_cons_of_neg hq, if_neg hq]

theorem styles_unsupported {s : Stylist} (h : s.support = .unsupported)
    (run : List (String × String)) : s.styles run = (run.map fun _ => none, s) := by
  have hstyle (q : String × String) : s.style? q.1 q.2 = (none, s) := by
    rw [style?, h]
  induction run with
  | nil => rfl
  | cons q run ih => rw [styles_cons, hstyle, ih, List.map_cons]

theorem styleAfter_inline {s : Stylist} (h : s.support = .inline) (run : List (String × String))
    (q : String × String) :
    s.styleAfter run q = s.sheet.styleWith?
      ((s.colors.colorsFor (run.filter s.sheet.takesColor)).2.colorFor q.1 q.2).1 q := by
  rw [styleAfter, styles_inline h, style?_inline]
  exact h

/-- A stylist gives the same answer again, whatever it is asked for in between. -/
theorem styleAfter_cons_self (s : Stylist) (q : String × String) (run : List (String × String)) :
    s.styleAfter (q :: run) q = (s.style? q.1 q.2).1 := by
  cases h : s.support with
  | unsupported => rw [styleAfter, styles_unsupported h]
  | inline =>
    rw [styleAfter_inline h, style?_inline h]
    by_cases hq : s.sheet.takesColor q = true
    · have hgiven := ColorStore.lookup_colorsFor_of_some
        (ColorStore.lookup_colorFor s.colors q) (run.filter s.sheet.takesColor)
      rw [List.filter_cons_of_pos hq, ColorStore.colorsFor_cons,
        ColorStore.colorFor_of_lookup hgiven]
    · exact StyleSheet.styleWith?_of_not_takesColor (Bool.eq_false_iff.mpr hq) ..

theorem styleAfter_append (s : Stylist) (run rest : List (String × String)) :
    s.styleAfter (run ++ rest) = (s.styles run).2.styleAfter rest := by
  funext q
  rw [styleAfter, styles_append]
  rfl

/-- All answers of a run are those that the stylist gives after it. -/
theorem styles_eq_map (s : Stylist) (run : List (String × String)) :
    (s.styles run).1 = run.map (s.styleAfter run) := by
  induction run generalizing s with
  | nil => rfl
  | cons q run ih =>
    rw [styles_cons, List.map_cons, styleAfter_cons_self, ih]
    rfl

/-- They are also those that it gives after a longer run. -/
theorem styles_eq_map_append (s : Stylist) (run rest : List (String × String)) :
    (s.styles run).1 = run.map (s.styleAfter (run ++ rest)) := by
  have hall := s.styles_eq_map (run ++ rest)
  rw [styles_append, List.map_append] at hall
  exact (List.append_inj hall (by rw [length_styles, List.length_map])).1

/-- The color in an answer is told by the place of the value. -/
theorem exists_ranked_styleAfter (draws : Draws) (sheet : StyleSheet) (run : List (String × String))
    (q : String × String) :
    ∃ color, Palette.Ranked (sheet.place run q) color ∧
      (ofSheet draws sheet .inline).styleAfter run q = sheet.styleWith? color q := by
  have hfollows := (ColorStore.Follows.empty draws).colorsFor
    (run.filter sheet.takesColor)
  exact ⟨_, hfollows.ranked_colorFor q, styleAfter_inline rfl run q⟩

theorem styleAfter_of_color {sheet : StyleSheet} {run : List (String × String)}
    {q : String × String} {color : String} (h : Palette.colors[sheet.place run q]? = some color)
    (draws : Draws) : (ofSheet draws sheet .inline).styleAfter run q = sheet.styleWith? color q := by
  obtain ⟨given, hrank, hstyle⟩ := exists_ranked_styleAfter draws sheet run q
  rw [Palette.Ranked, h] at hrank
  rw [hstyle, hrank]

end Stylist

namespace StyledFormat

/-- What a styled format can be asked for: the line of a record, or the style of a field's value. -/
inductive Call where
  | line (r : Record)
  | style (q : String × String)

inductive Answer where
  | line (m : Message)
  | style (css : Option String)
  deriving DecidableEq

/-- Answer to a call, and the format for the next one. -/
def call (f : StyledFormat) : Call → Answer × StyledFormat
  | .line r =>
    let (m, f) := f.message r
    (.line m, f)
  | .style q =>
    let (css, stylist) := f.stylist.style? q.1 q.2
    (.style css, { f with stylist })

/-- Answers to calls in order, and the format after them. -/
def calls (f : StyledFormat) : List Call → List Answer × StyledFormat
  | [] => ([], f)
  | c :: cs =>
    let (answer, f) := f.call c
    let (rest, f) := calls f cs
    (answer :: rest, f)

/-- Requests that a call makes to the stylist. -/
def requests (f : StyledFormat) : Call → List (String × String)
  | .line r => (Layout.compile f.layout).directives.map (·.request f.timePattern r)
  | .style q => [q]

/-- Answer to a call by the styles of its requests. -/
def answer (f : StyledFormat) (style : String × String → Option String) : Call → Answer
  | .line r =>
    .line (Part.messages (Part.styled (LineFormat.parts f.layout f.timePattern r)
      ((f.requests (.line r)).map style) ++ errorParts r.error))
  | .style q => .style (style q)

theorem calls_cons (f : StyledFormat) (c : Call) (cs : List Call) :
    f.calls (c :: cs) =
      ((f.call c).1 :: ((f.call c).2.calls cs).1, ((f.call c).2.calls cs).2) := rfl

/-- A call is answered by the styles that the stylist gives for its requests, then and later. -/
theorem call_eq (f : StyledFormat) (c : Call) (later : List (String × String)) :
    f.call c = (f.answer (f.stylist.styleAfter (f.requests c ++ later)) c,
      { f with stylist := (f.stylist.styles (f.requests c)).2 }) := by
  have hstyles := f.stylist.styles_eq_map_append (f.requests c) later
  cases c with
  | line r =>
    rw [answer, ← hstyles, call, message_eq_parts_styled]
    rfl
  | style q =>
    rw [answer, ← (List.cons.inj hstyles).1]
    rfl

/-- Calls are answered by the styles that the stylist gives after the requests of all of them. -/
theorem calls_eq (f : StyledFormat) (cs : List Call) :
    f.calls cs = (cs.map (f.answer (f.stylist.styleAfter (cs.flatMap f.requests))),
      { f with stylist := (f.stylist.styles (cs.flatMap f.requests)).2 }) := by
  induction cs generalizing f with
  | nil => rfl
  | cons c cs ih =>
    rw [calls_cons, ih, call_eq f c (cs.flatMap f.requests), List.flatMap_cons, List.map_cons,
      Stylist.styleAfter_append, Stylist.styles_append]
    rfl

end StyledFormat

namespace Stylist

/-- A stylist that starts without colors answers a request in the same way all along. If fewer than
14 other values of its field took a color before, then the color in the answer is the next of the
palette, in every declaration of the rule. Requests for other fields, and those that take no color,
may be left out of the run or put in, and no answer with a color of the palette changes. Without
support for styles there are no answers and no colors. Calls of a styled format make such a run with
all their requests. -/
theorem styles_stable (sheet : StyleSheet) (draws : Draws) (run : List (String × String)) :
    let s := ofSheet draws sheet .inline
    let mute := ofSheet draws sheet .unsupported
    (s.styles run).1 = run.map (s.styleAfter run) ∧
    (∀ q, ∀ _ : sheet.place run q < 14,
      s.styleAfter run q = sheet.styleWith? Palette.colors[sheet.place run q] q) ∧
    (∀ q rest draws', rest.filter (fun p => p.1 == q.1 && sheet.takesColor p) =
        run.filter (fun p => p.1 == q.1 && sheet.takesColor p) →
      (sheet.takesColor q = true → sheet.place run q < 14) →
      (ofSheet draws' sheet .inline).styleAfter rest q = s.styleAfter run q) ∧
    (mute.styles run = (run.map fun _ => none, mute) ∧ mute.colors.isEmpty = true) ∧
    ∀ layout timePattern support calls,
      let f := StyledFormat.make layout timePattern (ofSheet draws sheet support)
      let made := calls.flatMap f.requests
      f.calls calls = (calls.map (f.answer (f.stylist.styleAfter made)),
        { f with stylist := (f.stylist.styles made).2 }) := by
  refine ⟨styles_eq_map _ run, ?_, ?_, ⟨styles_unsupported rfl run, rfl⟩,
    fun _ _ _ calls => StyledFormat.calls_eq _ calls⟩
  · intro q hplace
    exact styleAfter_of_color (List.getElem?_eq_getElem hplace) draws
  · intro q rest draws' hsame hplace
    by_cases hq : sheet.takesColor q = true
    · obtain ⟨color, hcolor⟩ : ∃ color, Palette.colors[sheet.place run q]? = some color :=
        ⟨_, List.getElem?_eq_getElem (hplace hq)⟩
      rw [styleAfter_of_color hcolor]
      rw [← StyleSheet.place_eq_of_filter_eq hsame] at hcolor
      exact styleAfter_of_color hcolor draws'
    · rw [styleAfter_inline rfl, styleAfter_inline rfl]
      exact StyleSheet.styleWith?_of_not_takesColor (Bool.eq_false_iff.mpr hq) ..

/-- The second name has the second color, whatever the levels in between are. -/
theorem styles_stable_second_name :
    let sheet := (StyleSheet.empty.withRule "name" "*" [("color", "%(color)")]).withRule "levelname"
      "*" [("color", "red")]
    let run := [("name", "web"), ("levelname", "INFO"), ("name", "db"), ("name", "web")]
    let rest := [("name", "web"), ("name", "db"), ("name", "web")]
    rest.filter (fun p => p.1 == "name" && sheet.takesColor p) =
        run.filter (fun p => p.1 == "name" && sheet.takesColor p) ∧
      sheet.place run ("name", "db") < 14 ∧
      (ofSheet (.seeded 1) sheet .inline).styleAfter rest ("name", "db") =
        some "color:#1da1f2;" := by
  intro sheet run rest
  obtain ⟨-, hpalette, hisolated, -⟩ := styles_stable sheet (.seeded 0) run
  have hsame : rest.filter (fun p => p.1 == "name" && sheet.takesColor p) =
      run.filter (fun p => p.1 == "name" && sheet.takesColor p) := by decide
  have hplace : sheet.place run ("name", "db") < 14 := by decide
  refine ⟨hsame, hplace, ?_⟩
  rw [hisolated ("name", "db") rest (.seeded 1) hsame fun _ => hplace,
    hpalette ("name", "db") (by decide)]
  decide +kernel

end Stylist

end Logline
