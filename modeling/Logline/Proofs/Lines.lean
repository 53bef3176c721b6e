import Logline.Session
/-!
Lines of a text. A session splits bytes, and the lines that it finds are those of the text. A text
can be cut at a line break, and the lines of the whole are those of both parts.
-/
namespace Logline

namespace Text

/-- Whether a text stops where a line begins: it is empty or ends with a line break. -/
def EndsLine (cs : List Char) : Prop :=
  ∀ c ∈ cs.getLast?, c = '\n'

instance (cs : List Char) : Decidable (EndsLine cs) :=
  decidable_of_iff (cs.getLast?.all (· == '\n') = true) (by
    cases h : cs.getLast? <;> simp [EndsLine, h])

/-- Lines of a text are told by the parts between its line breaks. -/
theorem lines_eq_splitAt (cs : List Char) :
    lines cs = (splitAt '\n' cs).dropLast.map (dropReturn '\r') ++
      ((splitAt '\n' cs).getLast?.filter (· ≠ [])).toList := rfl

theorem lines_nil : lines [] = [] := by
  rw [lines_eq_splitAt, splitAt, List.splitOnP_nil]
  rfl

theorem lines_append_break (cs rest : List Char) :
    lines (cs ++ '\n' :: rest) = (splitAt '\n' cs).map (dropReturn '\r') ++ lines rest := by
  have hrest : splitAt '\n' rest ≠ [] := List.splitOnP_ne_nil _ _
  rw [lines_eq_splitAt, lines_eq_splitAt, splitAt_append_cons, List.dropLast_append_of_ne_nil hrest,
    List.getLast?_append, List.getLast?_eq_some_getLast hrest, Option.some_or, List.map_append,
    List.append_assoc]

/-- The lines of two texts are those of the first and those of the second, if the first stops where
a line begins. -/
theorem lines_append {cs : List Char} (h : EndsLine cs) (rest : List Char) :
    lines (cs ++ rest) = lines cs ++ lines rest := by
  rcases List.eq_nil_or_concat cs with rfl | ⟨front, c, rfl⟩
  · rw [lines_nil]
    rfl
  · rw [List.concat_eq_append] at h ⊢
    obtain rfl : c = '\n' := h c (by simp)
    rw [List.append_assoc, List.singleton_append, lines_append_break, lines_append_break, lines_nil,
      List.append_nil]

/-- A text and its bytes are empty together. -/
theorem toUtf8_eq_nil_iff {cs : List Char} : toUtf8 cs = [] ↔ cs = [] := by
  cases cs with
  | nil => simp [toUtf8]
  | cons c cs => simp [toUtf8, String.utf8EncodeChar_ne_nil]

/-- The bytes of a text read back as the text. -/
theorem ofUtf8?_toUtf8 (cs : List Char) : ofUtf8? (toUtf8 cs) = some cs := by
  have hbytes : (⟨(toUtf8 cs).toArray⟩ : ByteArray) = (String.ofList cs).toByteArray := by
    rw [String.toByteArray_ofList, ByteArray.ext_iff]
    exact (List.data_toByteArray (l := toUtf8 cs)).symm
  rw [ofUtf8?, hbytes, String.fromUTF8?, dif_pos (String.ofList cs).isValidUTF8]
  exact congrArg some String.toList_ofList

/-- A character that takes several bytes takes none below 128. -/
theorem le_toNat_of_mem_utf8EncodeChar {b : UInt8} {c : Char} (hc : ¬ c.val.toNat ≤ 127)
    (h : b ∈ String.utf8EncodeChar c) : 128 ≤ b.toNat := by
  simp only [String.utf8EncodeChar, if_neg hc] at h
  split at h
  · simp only [List.mem_cons, List.not_mem_nil, or_false] at h
    rcases h with rfl | rfl <;> rw [UInt8.toNat_ofNat'] <;> omega
  · split at h <;> simp only [List.mem_cons, List.not_mem_nil, or_false] at h
    · rcases h with rfl | rfl | rfl <;> rw [UInt8.toNat_ofNat'] <;> omega
    · rcases h with rfl | rfl | rfl | rfl <;> rw [UInt8.toNat_ofNat'] <;> omega

/-- A byte below 128 is a character of its own. -/
theorem toNat_eq_of_mem_utf8EncodeChar {b : UInt8} {c : Char} (hb : b.toNat < 128)
    (h : b ∈ String.utf8EncodeChar c) : c.toNat = b.toNat := by
  have hc : c.val.toNat ≤ 127 := by
    apply Classical.byContradiction
    intro hc
    exact Nat.not_le.mpr hb (le_toNat_of_mem_utf8EncodeChar hc h)
  simp only [String.utf8EncodeChar, if_pos hc, List.mem_singleton] at h
  rw [h, UInt8.toNat_ofNat', Nat.mod_eq_of_lt (by omega)]
  rfl

end Text

namespace Session

open Text (toUtf8)

theorem splitOnP_append {p : UInt8 → Bool} {front : List UInt8} (h : ∀ b ∈ front, p b = false)
    (rest : List UInt8) :
    (front ++ rest).splitOnP p = (rest.splitOnP p).modifyHead (front ++ ·) := by
  induction front with
  | nil => exact (congrFun List.modifyHead_id _).symm
  | cons b front ih =>
    rw [List.forall_mem_cons] at h
    rw [List.cons_append, List.splitOnP_cons_eq_if_modifyHead, h.1, if_neg Bool.false_ne_true,
      ih h.2, List.modifyHead_modifyHead]
    rfl

/-- Line feeds among the bytes of a text are its line breaks. -/
theorem splitOnP_toUtf8 (cs : List Char) :
    (toUtf8 cs).splitOnP (· == 10) = (Text.splitAt '\n' cs).map toUtf8 := by
  induction cs with
  | nil => rw [toUtf8, List.flatMap_nil, Text.splitAt, List.splitOnP_nil, List.splitOnP_nil]; rfl
  | cons c cs ih =>
    rw [toUtf8, List.flatMap_cons, ← toUtf8, Text.splitAt, List.splitOnP_cons_eq_if_modifyHead,
      ← Text.splitAt]
    by_cases hc : c = '\n'
    · subst hc
      rw [beq_self_eq_true, if_pos rfl, List.map_cons, ← ih]
      exact List.splitOnP_append_cons [] (toUtf8 cs) (beq_self_eq_true (10 : UInt8))
    · have hbytes : ∀ b ∈ String.utf8EncodeChar c, (b == 10) = false := by
        intro b hb
        rw [beq_eq_false_iff_ne]
        rintro rfl
        exact hc (Char.toNat_inj.mp (Text.toNat_eq_of_mem_utf8EncodeChar (by decide) hb))
      rw [splitOnP_append hbytes, ih, beq_eq_false_iff_ne.mpr hc, if_neg Bool.false_ne_true]
      cases Text.splitAt '\n' cs <;> rfl

theorem dropReturn_toUtf8 (line : List Char) :
    Text.dropReturn 13 (toUtf8 line) = toUtf8 (Text.dropReturn '\r' line) := by
  rcases List.eq_nil_or_concat line with rfl | ⟨front, c, rfl⟩
  · rfl
  · have hbytes : toUtf8 (front ++ [c]) = toUtf8 front ++ String.utf8EncodeChar c := by
      simp [toUtf8]
    have hlast : (toUtf8 front ++ String.utf8EncodeChar c).getLast? =
        some ((String.utf8EncodeChar c).getLast String.utf8EncodeChar_ne_nil) := by
      rw [List.getLast?_append, List.getLast?_eq_some_getLast, Option.some_or]
    rw [List.concat_eq_append, Text.dropReturn, Text.dropReturn, hbytes, hlast, List.getLast?_concat,
      List.dropLast_concat]
    by_cases hc : c = '\r'
    · subst hc
      exact List.dropLast_concat
    · have hreturn : (String.utf8EncodeChar c).getLast String.utf8EncodeChar_ne_nil ≠ 13 := by
        intro h
        have hmem : 13 ∈ String.utf8EncodeChar c := h ▸ List.getLast_mem _
        exact hc (Char.toNat_inj.mp (Text.toNat_eq_of_mem_utf8EncodeChar (by decide) hmem))
      rw [if_neg fun h => hreturn (Option.some.inj h), if_neg fun h => hc (Option.some.inj h),
        hbytes]

/-- The lines of the bytes of a text are the bytes of its lines. -/
theorem byteLines_toUtf8 (cs : List Char) :
    Text.byteLines (toUtf8 cs) = (Text.lines cs).map toUtf8 := by
  have hlast (last : Option (List Char)) :
      ((last.map toUtf8).filter (· ≠ [])).toList =
        (last.filter (· ≠ [])).toList.map toUtf8 := by
    cases last with
    | none => rfl
    | some line => by_cases h : line = [] <;> simp [Option.filter, Text.toUtf8_eq_nil_iff, h]
  rw [Text.byteLines, Text.splitLines, splitOnP_toUtf8, ← List.map_dropLast, List.getLast?_map,
    hlast, Text.lines_eq_splitAt, List.map_append, List.map_map, List.map_map]
  congr 1
  exact List.map_congr_left fun line _ => dropReturn_toUtf8 line

theorem readTexts_map_toUtf8 (texts : List (List Char)) :
    readTexts (texts.map toUtf8) = (texts, true) := by
  induction texts with
  | nil => rfl
  | cons cs texts ih => rw [List.map_cons, readTexts, Text.ofUtf8?_toUtf8, ih]

/-- A session over a text handles its lines and reads it to its end. -/
theorem ofInput_toUtf8 (h : Handler) (zone : Time.Zone) (now : Time.LocalTime) (cs : List Char) :
    ofInput h zone now (toUtf8 cs) =
      (run h 1 ((Text.lines cs).map (Line.ofText zone now)), true) := by
  rw [ofInput, byteLines_toUtf8, readTexts_map_toUtf8]

end Session

end Logline
