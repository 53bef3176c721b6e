import Logline.Directive
import Logline.Placeholder
/-!
Values of a record with nothing in it. Whatever a directive asks for, it has the level's name, cut and
padded, or nothing; in any notation such a value is spelled with few letters.
-/
namespace Logline

namespace Record

/-- Record with nothing in it but a level. -/
def blank : Record :=
  ⟨.epoch, .notSet, "", "", none, []⟩

/-- Letters of the values that the blank record has. -/
def letters : List Char :=
  [' ', 'N', 'O', 'T', 'S', 'E']

/-- The letters begin no number, spell no word for one and need no escape. -/
theorem of_mem_letters {c : Char} (h : c ∈ letters) :
    (c.isDigit = false ∧ c ≠ '-' ∧ c ≠ '+' ∧ c ≠ '.') ∧ c.toLower ≠ 'a' ∧ c.toLower ≠ 'i' ∧
      'c' ∉ Json.escapeChar c := by
  have hall : letters.all (fun c =>
      (c.isDigit = false ∧ c ≠ '-' ∧ c ≠ '+' ∧ c ≠ '.') ∧ c.toLower ≠ 'a' ∧ c.toLower ≠ 'i' ∧
        'c' ∉ Json.escapeChar c) = true := by
    decide
  exact of_decide_eq_true (List.all_eq_true.mp hall c h)

end Record

theorem Binary64.ofText?_letters {cs : List Char} (h : cs ⊆ Record.letters) :
    ofText? cs = none := by
  have hword : 'a' ∉ cs.map Char.toLower ∧ 'i' ∉ cs.map Char.toLower := by
    constructor
    · intro hmem
      obtain ⟨c, hc, heq⟩ := List.mem_map.mp hmem
      exact (Record.of_mem_letters (h hc)).2.1 heq
    · intro hmem
      obtain ⟨c, hc, heq⟩ := List.mem_map.mp hmem
      exact (Record.of_mem_letters (h hc)).2.2.1 heq
  have hreadWord : readWord false cs = none := by
    rw [readWord, if_neg, if_neg]
    · intro hnan
      rw [hnan] at hword
      simp at hword
    · rintro (hinf | hinf)
      · rw [hinf] at hword
        simp at hword
      · rw [hinf] at hword
        simp at hword
  cases cs with
  | nil => rfl
  | cons c cs =>
    obtain ⟨⟨hdigit, hminus, hplus, hpoint⟩, -⟩ := Record.of_mem_letters (h List.mem_cons_self)
    have hsign : readSign (c :: cs) = (false, c :: cs) := by simp [readSign, hminus, hplus]
    have hmagnitude : readMagnitude false (c :: cs) = none := by
      have hsplit : Decimal.splitDigits (c :: cs) = ([], c :: cs) := by
        simp [Decimal.splitDigits, hdigit]
      simp [readMagnitude, hsplit, hpoint]
    simp only [ofText?, hsign, hreadWord, hmagnitude]
    rfl

/-- Texts in these letters lack the letter of the style, in whatever notation they are shown. -/
theorem Placeholder.notMem_format_letters {cs : List Char} (h : cs ⊆ Record.letters)
    (p : Placeholder) : 'c' ∉ p.format (.str (String.ofList cs)) := by
  have htrim : Text.trim cs ⊆ Record.letters := by
    intro c hc
    rw [Text.trim, List.mem_reverse] at hc
    have hc := List.dropWhile_sublist _ |>.mem hc
    rw [List.mem_reverse] at hc
    exact h (List.dropWhile_sublist _ |>.mem hc)
  have hnumber : number? (.str (String.ofList cs)) = none := by
    rw [number?, String.toList_ofList]
    exact Binary64.ofText?_letters htrim
  have hquote : 'c' ∉ Json.quote cs := by
    intro hmem
    simp only [Json.quote, List.mem_cons, List.mem_append, List.mem_flatMap] at hmem
    rcases hmem with hmem | ⟨c, hc, hmem⟩ | hmem
    · revert hmem
      decide
    · exact (Record.of_mem_letters (h hc)).2.2.2 hmem
    · simp at hmem
  have hbody : 'c' ∉ p.body (.str (String.ofList cs)) := by
    unfold body
    split
    · simp [integerText, integer?, hnumber, notANumber]
    · simp [integerText, integer?, hnumber, notANumber]
    · simp [decimalText, hnumber, notANumber]
    · rw [Json.compact, String.toList_ofList]
      exact hquote
    · rw [Json.pretty, Json.indented, Json.compact, String.toList_ofList]
      exact hquote
    · rw [Json.display, String.toList_ofList]
      intro hmem
      have hc := h hmem
      revert hc
      decide
  rw [format, Decimal.padLeft, List.mem_append, List.mem_replicate]
  rintro (⟨-, hblank⟩ | hmem)
  · revert hblank
    decide
  · exact hbody hmem

namespace Directive

theorem pad_subset_letters (d : Directive) {cs : List Char} (h : cs ⊆ Record.letters) :
    d.pad cs ⊆ Record.letters := by
  have hpadded (cut : List Char) (hcut : cut ⊆ Record.letters) (n : Nat) :
      (if d.alignsLeft then cut ++ List.replicate n ' ' else List.replicate n ' ' ++ cut) ⊆
        Record.letters := by
    have hblank : List.replicate n ' ' ⊆ Record.letters := by
      intro c hc
      rw [(List.mem_replicate.mp hc).2]
      decide
    split
    · exact List.append_subset.mpr ⟨hcut, hblank⟩
    · exact List.append_subset.mpr ⟨hblank, hcut⟩
  unfold pad
  cases d.precision with
  | none => exact hpadded cs h _
  | some n => exact hpadded _ (fun c hc => h (List.mem_of_mem_take hc)) _

/-- Of the blank record a directive shows the level at most. -/
theorem field?_blank (key : String) (v : Json)
    (h : (Record.blank.field? key).filter Json.isTruthy = some v) : v = .str "NOTSET" := by
  have hmember : ∀ w, Record.blank.field? key = some w → w.isTruthy = true → w = .str "NOTSET" := by
    intro w hw htruthy
    unfold Record.field? at hw
    split at hw <;> cases hw
    case h_4 => rfl
    all_goals exact absurd htruthy (by decide +kernel)
  rw [Option.filter_eq_some_iff] at h
  exact hmember v h.1 h.2

theorem value_blank (d : Directive) : ∃ cs : List Char,
    d.value ['T'] Record.blank = .str (String.ofList cs) ∧ cs ⊆ Record.letters := by
  unfold value
  split
  · exact ⟨['T'], by decide +kernel, by decide⟩
  · split
    · exact ⟨[], rfl, by simp⟩
    · rename_i v hv
      rw [field?_blank d.key v hv]
      split
      · exact ⟨_, rfl, d.pad_subset_letters (by decide)⟩
      · exact ⟨"NOTSET".toList, by rw [String.ofList_toList], by decide⟩

end Directive

end Logline
