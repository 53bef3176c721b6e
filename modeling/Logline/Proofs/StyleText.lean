import Logline.Look
import Logline.Proofs.Sheet
import Logline.Proofs.StyleRun
import Mathlib.Data.List.TakeDrop
/-!
Style text reads back. A stylist writes declarations one behind the other, each with a semicolon at its
end; where no semicolon stands in a declaration and no colon in a property, taking the text apart gives
the same declarations, so the look of the text is that of the declarations in order.
-/
namespace Logline

namespace Text

/-- Parts without the separator, each with one behind it, and nothing behind the last. -/
theorem splitAt_flatMap {separator : Char} {parts : List (List Char)}
    (h : ∀ part ∈ parts, separator ∉ part) :
    splitAt separator (parts.flatMap (· ++ [separator])) = parts ++ [[]] := by
  induction parts with
  | nil => rfl
  | cons part parts ih =>
    obtain ⟨hpart, hparts⟩ := List.forall_mem_cons.mp h
    have hother : ∀ c ∈ part, (c == separator) = false := by
      intro c hc
      rw [beq_eq_false_iff_ne]
      rintro rfl
      exact hpart hc
    rw [List.flatMap_cons, splitAt, List.append_assoc, List.singleton_append,
      List.splitOnP_append_cons_of_forall_mem hother _ (beq_self_eq_true separator)]
    exact congrArg (part :: ·) (ih hparts)

theorem cut?_append {separator : Char} {before : List Char} (h : separator ∉ before)
    (after : List Char) :
    cut? separator (before ++ separator :: after) = some (before, after) := by
  have hother : ∀ c ∈ before, (c != separator) = true := by
    intro c hc
    rw [bne_iff_ne]
    rintro rfl
    exact h hc
  rw [cut?, List.span_eq_takeWhile_dropWhile, List.takeWhile_append_of_pos hother,
    List.dropWhile_append_of_pos hother]
  simp

theorem notMem_replaceFirst {c : Char} {part replacement cs : List Char}
    (hreplacement : c ∉ replacement) (hcs : c ∉ cs) : c ∉ replaceFirst part replacement cs := by
  induction cs with
  | nil => exact hcs
  | cons d cs ih =>
    rw [replaceFirst]
    split
    · rw [List.mem_append, not_or]
      exact ⟨hreplacement, fun hmem => hcs (List.mem_of_mem_drop hmem)⟩
    · rw [List.mem_cons, not_or] at hcs ⊢
      exact ⟨hcs.1, ih hcs.2⟩

end Text

theorem Palette.IsHexadecimal.semicolon_notMem {color : String} (h : IsHexadecimal color) :
    ';' ∉ color.toList := by
  obtain ⟨digits, hcolor, -, hdigits⟩ := h
  rw [hcolor, List.mem_cons, not_or]
  exact ⟨by decide, fun hmem => absurd (hdigits ';' hmem) (by decide)⟩

theorem Allocator.semicolon_notMem_allocate (a : Allocator) (space : String) :
    ';' ∉ (a.allocate space).1.toList := by
  have hpalette : ∀ color ∈ Palette.colors, ';' ∉ color.toList := by decide
  have hranked := a.ranked_allocate space
  rw [Palette.Ranked] at hranked
  split at hranked
  · rename_i color hcolor
    rw [hranked]
    exact hpalette color (List.mem_of_getElem? hcolor)
  · exact hranked.1.semicolon_notMem

namespace ColorStore

/-- Whether no color that was given ends a declaration. -/
def Inert (s : ColorStore) : Prop :=
  ∀ p ∈ s.assigned, ';' ∉ p.2.toList

variable {s : ColorStore}

theorem Inert.colorFor (h : s.Inert) (q : String × String) :
    ';' ∉ (s.colorFor q.1 q.2).1.toList ∧ (s.colorFor q.1 q.2).2.Inert := by
  cases hq : s.assigned.lookup q with
  | some color =>
    obtain ⟨front, rest, hassigned, -⟩ := List.lookup_eq_some_iff.mp hq
    have hmem : (q, color) ∈ s.assigned := by
      rw [hassigned]
      exact List.mem_append_right front List.mem_cons_self
    rw [colorFor_of_lookup hq]
    exact ⟨h _ hmem, h⟩
  | none =>
    have hnew := s.allocator.semicolon_notMem_allocate q.1
    rw [colorFor_of_lookup_none hq]
    exact ⟨hnew, List.forall_mem_append.mpr ⟨h, List.forall_mem_singleton.mpr hnew⟩⟩

theorem Inert.colorsFor (h : s.Inert) (qs : List (String × String)) :
    (s.colorsFor qs).2.Inert := by
  induction qs generalizing s with
  | nil => exact h
  | cons q qs ih =>
    rw [colorsFor_cons]
    exact ih (h.colorFor q).2

end ColorStore

namespace StyleSheet

/-- Declarations of the shared block and of all rules. -/
def declarations (s : StyleSheet) : Declarations :=
  s.shared.getD [] ++ s.rules.flatMap fun field => field.2.flatMap Prod.snd

/-- Whether a declaration can be told from its neighbours, and its property from its value. -/
def Separable (d : String × String) : Prop :=
  ':' ∉ d.1.toList ∧ ';' ∉ d.1.toList ∧ ';' ∉ d.2.toList

instance : DecidablePred Separable := fun d =>
  inferInstanceAs (Decidable (':' ∉ d.1.toList ∧ ';' ∉ d.1.toList ∧ ';' ∉ d.2.toList))

/-- Property and value of a declaration, with a color in place of the first mark for one. -/
def colored (color : String) (d : String × String) : List Char × List Char :=
  (d.1.toList, Text.replaceFirst Stylist.colorMark color.toList d.2.toList)

/-- Text between two semicolons. -/
def part (d : List Char × List Char) : List Char :=
  d.1 ++ ':' :: d.2

theorem declaration_eq (color : String) (d : String × String) :
    declaration color d = part (colored color d) ++ [';'] := by
  rw [declaration, part, List.append_assoc]
  rfl

theorem forall_mem_merged {P : String × String → Prop} {s : StyleSheet}
    (h : ∀ d ∈ s.declarations, P d) {field value : String} {rule : Declarations}
    (hrule : s.rule? field value = some rule) : ∀ d ∈ s.merged rule, P d := by
  obtain ⟨hshared, hrules⟩ := List.forall_mem_append.mp h
  obtain ⟨p, hp, q, hq, rfl⟩ := mem_of_rule? hrule
  refine Ordered.forall_mem_putAll hshared fun d hd => hrules d ?_
  exact List.mem_flatMap.mpr ⟨p, hp, List.mem_flatMap.mpr ⟨q, hq, hd⟩⟩

theorem splitAt_declarations {color : String} (hcolor : ';' ∉ color.toList) {ds : Declarations}
    (hds : ∀ d ∈ ds, Separable d) :
    Text.splitAt ';' (ds.flatMap (declaration color)) =
      (ds.map (colored color)).map part ++ [[]] := by
  have hparts : ∀ cs ∈ (ds.map (colored color)).map part, ';' ∉ cs := by
    intro cs hcs
    rw [List.map_map] at hcs
    obtain ⟨d, hd, rfl⟩ := List.mem_map.mp hcs
    obtain ⟨-, hproperty, hvalue⟩ := hds d hd
    rw [Function.comp_apply, part, List.mem_append, List.mem_cons, not_or, not_or]
    exact ⟨hproperty, by decide, Text.notMem_replaceFirst hcolor hvalue⟩
  rw [← Text.splitAt_flatMap hparts, List.flatMap_map, List.flatMap_map,
    funext (declaration_eq color)]

/-- Behind the declarations stands a part with no colon in it. -/
theorem map_cut?_parts (color : String) {ds : Declarations} (hds : ∀ d ∈ ds, Separable d) :
    ((ds.map (colored color)).map part ++ [[]]).map (Text.cut? ':') =
      (ds.map (colored color)).map some ++ [none] := by
  rw [List.map_append, List.map_map, List.map_map, List.map_map]
  refine congrArg (· ++ [none]) (List.map_congr_left fun d hd => ?_)
  exact Text.cut?_append (hds d hd).1 _

/-- A style is the declarations of the rule that applies. -/
theorem of_styleWith? {sheet : StyleSheet} {color : String} {q : String × String} {css : String}
    (h : sheet.styleWith? color q = some css) :
    ∃ rule, sheet.rule? q.1 q.2 = some rule ∧
      css.toList = (sheet.merged rule).flatMap (declaration color) := by
  obtain ⟨rule, hrule, htext⟩ := Option.bind_eq_some_iff.mp h
  refine ⟨rule, hrule, ?_⟩
  dsimp only at htext
  split at htext
  · cases htext
  · rw [← Option.some.inj htext, String.toList_ofList]

end StyleSheet

/-- Parts that are declarations, with one behind them that is none. -/
theorem Look.declarations_eq {css : List Char} {ds : List (List Char × List Char)}
    (h : (Text.splitAt ';' css).map (Text.cut? ':') = ds.map some ++ [none]) :
    declarations css = ds := by
  have hcut : declarations css = ((Text.splitAt ';' css).map (Text.cut? ':')).filterMap id := by
    rw [List.filterMap_map, Function.id_comp, declarations]
  have hds : (ds.map some).filterMap id = ds := by
    rw [List.filterMap_map, Function.id_comp, List.filterMap_some]
  rw [hcut, h, List.filterMap_append, hds]
  exact List.append_nil ds

namespace Stylist

/-- Before every request of a run the colors that were given are inert. -/
theorem inert_styles (draws : Draws) (sheet : StyleSheet) (run : List (String × String)) :
    (((ofSheet draws sheet .inline).styles run).2.colors).Inert := by
  have hstart : (ColorStore.empty draws).Inert := by
    intro p hp
    cases hp
  rw [styles_inline rfl]
  exact hstart.colorsFor _

/-- The style of a value, taken apart at semicolons and each part at its first colon, is the merged
declarations of the rule that applies, in order, with the color of the value in place of each first
mark, and an empty part behind them. So its look is that of these declarations one after the other.
If one of them has a mark, the color is the one that the stylist then keeps for the value. -/
theorem declarations_styleAfter {sheet : StyleSheet}
    (hsheet : ∀ d ∈ sheet.declarations, StyleSheet.Separable d) (draws : Draws)
    (run : List (String × String)) (q : String × String) {css : String}
    (hcss : (ofSheet draws sheet .inline).styleAfter run q = some css) :
    let s := ((ofSheet draws sheet .inline).styles run).2
    let color := (s.colors.colorFor q.1 q.2).1
    ∃ rule, sheet.rule? q.1 q.2 = some rule ∧
      let ds := (sheet.merged rule).map (StyleSheet.colored color)
      Text.splitAt ';' css.toList = ds.map StyleSheet.part ++ [[]] ∧
      (Text.splitAt ';' css.toList).map (Text.cut? ':') = ds.map some ++ [none] ∧
      Look.declarations css.toList = ds ∧
      Look.ofCss css.toList = ds.foldl (fun l d => l.declare d.1 d.2) .plain ∧
      (sheet.takesColor q = true →
        (s.style? q.1 q.2).2.colors.assigned.lookup q = some color) ∧
      (sheet.WellFormed →
        let block := sheet.shared.getD []
        sheet.merged rule = block.map (fun d => (d.1, (rule.lookup d.1).getD d.2)) ++
          rule.filter (fun d => d.1 ∉ block.map Prod.fst)) := by
  intro s color
  obtain ⟨hsupport, hsame⟩ : s.support = .inline ∧ s.sheet = sheet := by
    rw [show s = _ from styles_inline rfl run]
    exact ⟨rfl, rfl⟩
  have hstyle := style?_inline hsupport q
  rw [hsame] at hstyle
  rw [styleAfter, hstyle] at hcss
  obtain ⟨rule, hrule, htext⟩ := StyleSheet.of_styleWith? hcss
  have hmerged := StyleSheet.forall_mem_merged hsheet hrule
  have hcolor : ';' ∉ color.toList := ((inert_styles draws sheet run).colorFor q).1
  have hsplit := StyleSheet.splitAt_declarations hcolor hmerged
  have hcut := StyleSheet.map_cut?_parts color hmerged
  rw [← htext] at hsplit
  rw [← hsplit] at hcut
  have hread := Look.declarations_eq hcut
  refine ⟨rule, hrule, hsplit, hcut, hread, ?_, ?_, ?_⟩
  · rw [Look.ofCss, hread]
  · intro htakes
    rw [hstyle, if_pos htakes]
    exact ColorStore.lookup_colorFor s.colors q
  · intro hwell
    exact hwell.merged_eq (hwell.unique_rule hrule)

/-- A shared color is replaced in its place, and a value may have colons and a second mark. -/
theorem declarations_styleAfter_web :
    let rule := [("border", "%(color):%(color)"), ("color", "%(color)"), ("content", "")]
    let sheet := (StyleSheet.empty.withShared [("padding", "0 2px"), ("color", "white")]).withRule
      "name" "*" rule
    let css := "padding:0 2px;color:#1da1f2;border:#1da1f2:%(color);content:;"
    (∀ d ∈ sheet.declarations, StyleSheet.Separable d) ∧
      (ofSheet (.seeded 0) sheet .inline).styleAfter [("name", "db")] ("name", "web") = some css ∧
      Look.declarations css.toList =
        [("padding".toList, "0 2px".toList), ("color".toList, "#1da1f2".toList),
          ("border".toList, "#1da1f2:%(color)".toList), ("content".toList, [])] ∧
      Look.ofCss css.toList = { Look.plain with foreground := some (.rgb 0x1d 0xa1 0xf2) } := by
  intro rule sheet css
  have hsheet : ∀ d ∈ sheet.declarations, StyleSheet.Separable d := by decide
  have hstyle :
      (ofSheet (.seeded 0) sheet .inline).styleAfter [("name", "db")] ("name", "web") = some css := by
    decide +kernel
  obtain ⟨own, hown, -, -, hread, hlook, -⟩ :=
    declarations_styleAfter hsheet (.seeded 0) [("name", "db")] ("name", "web") hstyle
  have hrule : sheet.rule? "name" "web" = some rule := by decide
  obtain rfl := Option.some.inj (hown.symm.trans hrule)
  exact ⟨hsheet, hstyle, hread.trans (by decide +kernel), hlook.trans (by decide +kernel)⟩

end Stylist

end Logline
