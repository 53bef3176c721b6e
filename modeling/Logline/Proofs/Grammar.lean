import Logline.Layout
import Logline.Proofs.Spelling
import Mathlib.Data.List.TakeWhile
/-!
The grammar of layouts. An opener begins a directive if a key stands behind it, and is a text of its
own otherwise. Every layout reads in one way, and scanning it gives the segments of that reading.
-/
namespace Logline

namespace Directive

/-- A key is what stands in front of the first closing parenthesis. -/
theorem readKey_key {key : List Char} (hne : key ≠ []) (hkey : ')' ∉ key) (rest : List Char) :
    readKey (key ++ ')' :: rest) = some (String.ofList key, rest) := by
  have hall : ∀ c ∈ key, (c != ')') = true := by
    intro c hc
    exact bne_iff_ne.mpr fun h => hkey (h ▸ hc)
  have htake : (key ++ ')' :: rest).takeWhile (· != ')') = key := by
    rw [List.takeWhile_append_of_pos hall]
    simp
  have hdrop : (key ++ ')' :: rest).dropWhile (· != ')') = ')' :: rest := by
    rw [List.dropWhile_append_of_pos hall]
    simp
  obtain ⟨c, cs, rfl⟩ := List.exists_cons_of_ne_nil hne
  simp only [readKey, htake, hdrop]

theorem readKey_eq_none {cs : List Char} (h : ')' ∉ cs ∨ [')'] <+: cs) : readKey cs = none := by
  rcases h with h | ⟨rest, rfl⟩
  · have hdrop : cs.dropWhile (· != ')') = [] := by
      rw [List.dropWhile_eq_nil_iff]
      intro c hc
      exact bne_iff_ne.mpr fun hparen => h (hparen ▸ hc)
    rw [readKey, hdrop]
    split
    · rfl
    · rfl
    · contradiction
  · rfl

/-- Behind an opener there is a key, or nothing that could close it, or it is closed at once. -/
theorem exists_key_or (cs : List Char) :
    (∃ key rest, key ≠ [] ∧ ')' ∉ key ∧ cs = key ++ ')' :: rest) ∨ ')' ∉ cs ∨ [')'] <+: cs := by
  by_cases hmem : ')' ∈ cs
  · obtain ⟨key, rest, rfl, hkey⟩ := List.eq_append_cons_of_mem hmem
    cases key with
    | nil => exact .inr (.inr ⟨rest, rfl⟩)
    | cons c key => exact .inl ⟨c :: key, rest, List.cons_ne_nil _ _, hkey, rfl⟩
  · exact .inr (.inl hmem)

/-- Behind its key a directive is read as the longest spelling. -/
theorem read_key {key : List Char} (hne : key ≠ []) (hkey : ')' ∉ key) {s : Spelling}
    {rest : List Char} (hs : s.Longest (s.text ++ rest)) :
    read (key ++ ')' :: (s.text ++ rest)) = some (s.directive (String.ofList key), rest) := by
  have hread : Spelling.read (s.text ++ rest) = (s, rest) := by
    have hfirst := (Spelling.longest_iff s _).mp hs
    have htext := Spelling.text_read (s.text ++ rest)
    rw [← hfirst] at htext
    exact Prod.ext hfirst.symm (List.append_cancel_left htext)
  rw [Spelling.directive_read, readKey_key hne hkey, Option.map_some, hread]

theorem read_eq_none {cs : List Char} (h : ')' ∉ cs ∨ [')'] <+: cs) : read cs = none := by
  rw [read, readKey_eq_none h]

end Directive

namespace Layout

/-- Begins a directive. -/
def opener : List Char := ['%', '(']

/-- Segment as it is written. -/
inductive Lexeme where
  | text (t : List Char)
  | directive (key : List Char) (s : Spelling)
  deriving DecidableEq, Repr

namespace Lexeme

def source : Lexeme → List Char
  | .text t => t
  | .directive key s => opener ++ (key ++ ')' :: s.text)

theorem source_directive_append (key : List Char) (s : Spelling) (rest : List Char) :
    (directive key s).source ++ rest = opener ++ (key ++ ')' :: (s.text ++ rest)) := by
  simp [source]

def segment : Lexeme → Segment
  | .text t => .text t
  | .directive key s => .directive (s.directive (String.ofList key))

/-- A lexeme is read as such in front of what follows it. Text goes up to the next opener. An opener
is text if no closing parenthesis follows, or one follows at once; otherwise a key goes up to the
first one, and the longest spelling stands behind it. -/
inductive Before (rest : List Char) : Lexeme → Prop where
  | text {t : List Char} (hne : t ≠ []) (ht : ¬ opener <:+: t)
      (hrest : rest = [] ∨ opener <+: rest) : Before rest (.text t)
  | opener (hrest : ')' ∉ rest ∨ [')'] <+: rest) : Before rest (.text opener)
  | directive {key : List Char} {s : Spelling} (hne : key ≠ []) (hkey : ')' ∉ key)
      (hs : s.Longest (s.text ++ rest)) : Before rest (.directive key s)

end Lexeme

/-- Reading of a layout as lexemes. -/
inductive Reads : List Char → List Lexeme → Prop where
  | nil : Reads [] []
  | cons {l : Lexeme} {rest : List Char} {ls : List Lexeme} (hl : l.Before rest)
      (hls : Reads rest ls) : Reads (l.source ++ rest) (l :: ls)

theorem opener_prefix_cons {c : Char} {cs : List Char} :
    opener <+: c :: cs ↔ c = '%' ∧ ['('] <+: cs := by
  rw [opener, List.cons_prefix_cons, eq_comm]

/-- Text that does not begin with an opener does not begin with one in front of a further opener
either: the last character of the text and the percent sign behind it make none. -/
theorem not_opener_prefix_append {t rest : List Char} (hne : t ≠ []) (ht : ¬ opener <+: t)
    (hrest : rest = [] ∨ opener <+: rest) : ¬ opener <+: t ++ rest := by
  obtain ⟨c, t, rfl⟩ := List.exists_cons_of_ne_nil hne
  rw [opener_prefix_cons] at ht
  rw [List.cons_append, opener_prefix_cons]
  rintro ⟨hc, hparen⟩
  cases t with
  | cons d t =>
    rw [List.cons_append, List.cons_prefix_cons] at hparen
    exact ht ⟨hc, by rw [List.cons_prefix_cons]; exact ⟨hparen.1, List.nil_prefix⟩⟩
  | nil =>
    rcases hrest with rfl | ⟨rest, rfl⟩
    · exact absurd hparen (by decide)
    · exact absurd (List.cons_prefix_cons.mp hparen).1 (by decide)

theorem splitOpener_cons {c : Char} {cs : List Char} (h : ¬ opener <+: c :: cs) :
    splitOpener (c :: cs) = (c :: (splitOpener cs).1, (splitOpener cs).2) := by
  rw [splitOpener]
  rintro rest rfl rfl
  exact h ⟨rest, rfl⟩

/-- A text is split off as a whole if an opener follows it, or nothing. -/
theorem splitOpener_text {t rest : List Char} (ht : ¬ opener <:+: t)
    (hrest : rest = [] ∨ opener <+: rest) : splitOpener (t ++ rest) = (t, rest) := by
  induction t with
  | nil =>
    rcases hrest with rfl | ⟨rest, rfl⟩
    · rfl
    · rfl
  | cons c t ih =>
    rw [List.infix_cons_iff, not_or] at ht
    have hfront := not_opener_prefix_append (List.cons_ne_nil c t) ht.1 hrest
    rw [List.cons_append] at hfront ⊢
    rw [splitOpener_cons hfront, ih ht.2]

theorem splitOpener_rest (cs : List Char) :
    (splitOpener cs).2 = [] ∨ opener <+: (splitOpener cs).2 := by
  fun_induction splitOpener cs with
  | case1 => exact .inl rfl
  | case2 cs => exact .inr ⟨cs, rfl⟩
  | case3 c cs hfront ih => exact ih

theorem not_opener_infix_splitOpener (cs : List Char) : ¬ opener <:+: (splitOpener cs).1 := by
  fun_induction splitOpener cs with
  | case1 => show ¬ opener <:+: []; decide
  | case2 cs => show ¬ opener <:+: []; decide
  | case3 c cs hfront ih =>
    rw [List.infix_cons_iff, not_or]
    refine ⟨?_, ih⟩
    rw [opener_prefix_cons]
    rintro ⟨rfl, rest, hrest⟩
    have hcs := splitOpener_append cs
    rw [← hrest] at hcs
    exact hfront _ rfl hcs.symm

theorem segments_opener {rest : List Char} (h : Directive.read rest = none) :
    segments (opener ++ rest) = .text opener :: segments rest := by
  change segments ('%' :: '(' :: rest) = _
  rw [segments]
  split
  · rename_i hread
    rw [h] at hread
    contradiction
  · rfl

theorem segments_directive {body rest : List Char} {d : Directive}
    (h : Directive.read body = some (d, rest)) :
    segments (opener ++ body) = .directive d :: segments rest := by
  change segments ('%' :: '(' :: body) = _
  rw [segments]
  split
  · rename_i hread
    obtain ⟨rfl, rfl⟩ : _ ∧ _ := by simpa [h] using hread
    rfl
  · rename_i hread
    rw [h] at hread
    contradiction

theorem segments_text {t rest : List Char} (hne : t ≠ []) (ht : ¬ opener <:+: t)
    (hrest : rest = [] ∨ opener <+: rest) :
    segments (t ++ rest) = .text t :: segments rest := by
  have hfront := not_opener_prefix_append hne (fun h => ht h.isInfix) hrest
  have hsplit := splitOpener_text ht hrest
  obtain ⟨c, t, rfl⟩ := List.exists_cons_of_ne_nil hne
  rw [List.cons_append] at hfront hsplit ⊢
  rw [splitOpener_cons hfront, Prod.mk.injEq] at hsplit
  rw [segments, hsplit.1, hsplit.2]
  rintro rest rfl hcs
  exact hfront (hcs ▸ ⟨rest, rfl⟩)

namespace Lexeme

variable {l l' : Lexeme} {rest rest' : List Char}

namespace Before

theorem source_ne_nil (h : l.Before rest) : l.source ≠ [] := by
  cases h with
  | text hne ht hrest => exact hne
  | opener hrest => exact List.cons_ne_nil _ _
  | directive hne hkey hs => exact List.cons_ne_nil _ _

/-- One step of scanning: the lexeme in front is the first segment. -/
theorem segments_eq (h : l.Before rest) :
    segments (l.source ++ rest) = l.segment :: segments rest := by
  cases h with
  | text hne ht hrest => exact segments_text hne ht hrest
  | opener hrest => exact segments_opener (Directive.read_eq_none hrest)
  | directive hne hkey hs =>
    rw [source_directive_append]
    exact segments_directive (Directive.read_key hne hkey hs)

/-- Of the fronts of a text one is a lexeme. -/
theorem unique (h : l.Before rest) (h' : l'.Before rest')
    (hsource : l.source ++ rest = l'.source ++ rest') : l = l' ∧ rest = rest' := by
  have hsegment : l.segment = l'.segment := by
    have hsegments := congrArg segments hsource
    rw [h.segments_eq, h'.segments_eq] at hsegments
    exact (List.cons.inj hsegments).1
  cases l with
  | text t =>
    cases l' with
    | text t' =>
      obtain rfl := Segment.text.inj hsegment
      exact ⟨rfl, List.append_cancel_left hsource⟩
    | directive key' s' => cases hsegment
  | directive key s =>
    cases l' with
    | text t' => cases hsegment
    | directive key' s' =>
      obtain rfl : key = key' :=
        String.ofList_injective (congrArg Directive.key (Segment.directive.inj hsegment))
      cases h with
      | directive hne hkey hs =>
        cases h' with
        | directive hne' hkey' hs' =>
          -- both spellings are the longest at the front of the same text
          have htext : s.text ++ rest = s'.text ++ rest' := by
            simpa [source_directive_append] using hsource
          rw [htext, Spelling.longest_iff] at hs
          obtain rfl := hs.trans ((Spelling.longest_iff _ _).mp hs').symm
          exact ⟨rfl, List.append_cancel_left htext⟩

end Before

/-- A lexeme stands at the front of every text. -/
theorem exists_before {cs : List Char} (hne : cs ≠ []) :
    ∃ l rest, Before rest l ∧ cs = l.source ++ rest := by
  by_cases hopener : opener <+: cs
  · obtain ⟨body, rfl⟩ := hopener
    obtain ⟨key, after, hkey, hparen, rfl⟩ | hnone := Directive.exists_key_or body
    · have htext := Spelling.text_read after
      refine ⟨.directive key (Spelling.read after).1, (Spelling.read after).2, ?_, ?_⟩
      · exact .directive hkey hparen ((Spelling.longest_iff _ _).mpr (by rw [htext]))
      · rw [source_directive_append, htext]
    · exact ⟨.text opener, body, .opener hnone, rfl⟩
  · refine ⟨.text (splitOpener cs).1, (splitOpener cs).2, ?_, (splitOpener_append cs).symm⟩
    refine .text ?_ (not_opener_infix_splitOpener cs) (splitOpener_rest cs)
    obtain ⟨c, cs, rfl⟩ := List.exists_cons_of_ne_nil hne
    rw [splitOpener_cons hopener]
    exact List.cons_ne_nil _ _

end Lexeme

theorem exists_reads (cs : List Char) : ∃ ls, Reads cs ls := by
  induction hlength : cs.length using Nat.strong_induction_on generalizing cs with
  | _ n ih =>
    by_cases hne : cs = []
    · exact ⟨[], hne ▸ .nil⟩
    · obtain ⟨l, rest, hl, rfl⟩ := Lexeme.exists_before hne
      have hpos := List.length_pos_iff.mpr hl.source_ne_nil
      rw [List.length_append] at hlength
      obtain ⟨ls, hls⟩ := ih rest.length (by omega) rest rfl
      exact ⟨l :: ls, .cons hl hls⟩

namespace Reads

variable {cs : List Char} {ls ls' : List Lexeme}

theorem unique (h : Reads cs ls) (h' : Reads cs ls') : ls = ls' := by
  induction h generalizing ls' with
  | nil =>
    generalize hcs : ([] : List Char) = cs at h'
    cases h' with
    | nil => rfl
    | cons hl' hls' => exact absurd (List.append_eq_nil_iff.mp hcs.symm).1 hl'.source_ne_nil
  | @cons l rest ls hl hls ih =>
    generalize hcs : l.source ++ rest = cs at h'
    cases h' with
    | nil => exact absurd (List.append_eq_nil_iff.mp hcs).1 hl.source_ne_nil
    | cons hl' hls' =>
      obtain ⟨rfl, rfl⟩ := hl.unique hl' hcs
      rw [ih hls']

/-- Scanning gives the segments of a reading. -/
theorem segments_eq (h : Reads cs ls) : segments cs = ls.map Lexeme.segment := by
  induction h with
  | nil => rw [segments, List.map_nil]
  | cons hl hls ih => rw [hl.segments_eq, ih, List.map_cons]

theorem source_eq (h : Reads cs ls) : ls.flatMap Lexeme.source = cs := by
  induction h with
  | nil => rfl
  | cons hl hls ih => rw [List.flatMap_cons, ih]

theorem exists_before (h : Reads cs ls) : ∀ l ∈ ls, ∃ rest, l.Before rest := by
  induction h with
  | nil => simp
  | cons hl hls ih =>
    intro l hmem
    rcases List.mem_cons.mp hmem with rfl | hmem
    · exact ⟨_, hl⟩
    · exact ih l hmem

end Reads

/-- An opener is scanned as text where no closing parenthesis follows, or one follows at once. -/
theorem text_opener_iff (rest : List Char) :
    (∃ segs, segments (opener ++ rest) = .text opener :: segs) ↔ ')' ∉ rest ∨ [')'] <+: rest := by
  constructor
  · rintro ⟨segs, hsegs⟩
    obtain ⟨key, after, hne, hkey, rfl⟩ | hnone := Directive.exists_key_or rest
    · have hread := Spelling.directive_read (key ++ ')' :: after)
      rw [Directive.readKey_key hne hkey, Option.map_some] at hread
      rw [segments_directive hread] at hsegs
      cases hsegs
    · exact hnone
  · intro h
    exact ⟨_, segments_opener (Directive.read_eq_none h)⟩

/-- A layout reads in one way, as the lexemes it is put together from, and scanning gives their
segments. A text is an opener that begins no directive, or holds no opener. -/
theorem segments_reads (cs : List Char) :
    (∃ ls, (∀ ls', Reads cs ls' ↔ ls' = ls) ∧ segments cs = ls.map Lexeme.segment ∧
      ls.flatMap Lexeme.source = cs) ∧
    (∀ t, Segment.text t ∈ segments cs → t ≠ [] ∧ (t = opener ∨ ¬ opener <:+: t)) ∧
    ((∃ segs, segments (opener ++ cs) = .text opener :: segs) ↔ ')' ∉ cs ∨ [')'] <+: cs) := by
  obtain ⟨ls, hls⟩ := exists_reads cs
  refine ⟨⟨ls, ?_, hls.segments_eq, hls.source_eq⟩, ?_, text_opener_iff cs⟩
  · intro ls'
    constructor
    · intro h
      exact h.unique hls
    · rintro rfl
      exact hls
  · intro t ht
    rw [hls.segments_eq, List.mem_map] at ht
    obtain ⟨l, hl, hsegment⟩ := ht
    obtain ⟨rest, hbefore⟩ := hls.exists_before l hl
    cases hbefore with
    | text hne hopener hrest =>
      obtain rfl := Segment.text.inj hsegment
      exact ⟨hne, .inr hopener⟩
    | opener hrest =>
      obtain rfl := Segment.text.inj hsegment
      exact ⟨List.cons_ne_nil _ _, .inl rfl⟩
    | directive hne hkey hs => cases hsegment

example : segments "%%(a) 7.d%()x".toList =
    [.text ['%'], .directive ⟨"a", some ' ', some 7, none, .string⟩, .text ['.', 'd'],
      .text ['%', '('], .text [')', 'x']] := by decide +kernel

end Layout

end Logline
