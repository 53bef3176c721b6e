import Logline.Color
/-!
Colors in hexadecimal notation. The reader takes what the notation allows, with the channels that
its digits give, and besides it texts with a plus sign in place of the first of a channel's two
digits, which are no notation.
-/
namespace Logline.Color

/-- Whether a character is the hexadecimal digit of a number, as a small letter or as a capital. -/
def IsDigit (c : Char) (n : Nat) : Prop :=
  n < 16 ∧ (c = Nat.digitChar n ∨ c = (Nat.digitChar n).toUpper)

instance (c : Char) (n : Nat) : Decidable (IsDigit c n) :=
  inferInstanceAs (Decidable (_ ∧ _))

/-- A channel of one digit, which counts as two equal ones. -/
def IsSingle (c : Char) (channel : UInt8) : Prop :=
  ∃ n, IsDigit c n ∧ channel.toNat = 17 * n

/-- A channel of two digits. -/
def IsDouble (high low : Char) (channel : UInt8) : Prop :=
  ∃ m n, IsDigit high m ∧ IsDigit low n ∧ channel.toNat = 16 * m + n

/-- Hexadecimal notation of a color: exactly three or exactly six digits. -/
inductive Hexadecimal : List Char → Color → Prop
  | short {x y z : Char} {r g b : UInt8} :
      IsSingle x r → IsSingle y g → IsSingle z b → Hexadecimal [x, y, z] (.rgb r g b)
  | long {u v w x y z : Char} {r g b : UInt8} :
      IsDouble u v r → IsDouble w x g → IsDouble y z b → Hexadecimal [u, v, w, x, y, z] (.rgb r g b)

theorem hexValue?_of_isDigit {c : Char} {n : Nat} (h : IsDigit c n) :
    Text.hexValue? c = some n := by
  have hdigits : ∀ n < 16, Text.hexValue? (Nat.digitChar n) = some n ∧
      Text.hexValue? (Nat.digitChar n).toUpper = some n := by decide
  obtain ⟨hn, rfl | rfl⟩ := h
  · exact (hdigits n hn).1
  · exact (hdigits n hn).2

/-- No character behind the small letters has a value, so the table of ASCII decides. -/
theorem isDigit_of_hexValue? {c : Char} {n : Nat} (h : Text.hexValue? c = some n) :
    IsDigit c n := by
  have htable : ∀ k < 128, ∀ m ∈ Text.hexValue? (Char.ofNat k), IsDigit (Char.ofNat k) m := by
    decide +kernel
  have hascii : c.toNat < 128 := by
    apply Classical.byContradiction
    intro hlarge
    have hbehind {d : Char} (hd : d.toNat < 128) : ¬ c ≤ d :=
      fun hc => hlarge (Nat.lt_of_le_of_lt hc hd)
    rw [Text.hexValue?, if_neg fun hc => hbehind (by decide) hc.2,
      if_neg fun hc => hbehind (by decide) hc.2, if_neg fun hc => hbehind (by decide) hc.2] at h
    cases h
  have hc := htable c.toNat hascii n
  rw [Char.ofNat_toNat] at hc
  exact hc h

theorem hexValue?_eq_some {c : Char} {n : Nat} : Text.hexValue? c = some n ↔ IsDigit c n :=
  ⟨isDigit_of_hexValue?, hexValue?_of_isDigit⟩

theorem not_isDigit_plus {n : Nat} : ¬ IsDigit '+' n := by
  rw [← hexValue?_eq_some]
  exact nofun

/-- The value of a channel is below 256, so a byte holds it. -/
theorem toUInt8_eq_iff {n : Nat} (h : n < 256) (channel : UInt8) :
    n.toUInt8 = channel ↔ channel.toNat = n := by
  have hn : n.toUInt8.toNat = n := by
    rw [Nat.toUInt8_eq, UInt8.toNat_ofNat']
    omega
  rw [← UInt8.toNat_inj, hn, eq_comm]

theorem isSingle_iff {c : Char} {channel : UInt8} :
    IsSingle c channel ↔ ∃ n, Text.hexValue? c = some n ∧ (17 * n).toUInt8 = channel := by
  refine exists_congr fun n => ?_
  rw [hexValue?_eq_some]
  refine and_congr_right fun h => (toUInt8_eq_iff ?_ channel).symm
  have := h.1
  omega

theorem isDouble_iff {high low : Char} {channel : UInt8} :
    IsDouble high low channel ↔ ∃ m n, Text.hexValue? high = some m ∧
      Text.hexValue? low = some n ∧ (16 * m + n).toUInt8 = channel := by
  refine exists_congr fun m => exists_congr fun n => ?_
  rw [hexValue?_eq_some, hexValue?_eq_some]
  refine and_congr_right fun hm => and_congr_right fun hn => (toUInt8_eq_iff ?_ channel).symm
  have := hm.1
  have := hn.1
  omega

/-- A plus sign as the first digit of a channel counts as zero. -/
def plusAsZero (c : Char) : Char :=
  if c = '+' then '0' else c

theorem channel?_eq_some {high low : Char} {channel : UInt8} :
    channel? high low = some channel ↔ IsDouble (plusAsZero high) low channel := by
  rw [isDouble_iff, channel?, plusAsZero]
  cases hlow : Text.hexValue? low with
  | none => simp
  | some n =>
    by_cases hplus : high = '+'
    · have hzero : Text.hexValue? '0' = some 0 := rfl
      simp [hplus, hzero]
    · simp [hplus]

/-- Text of six places with a zero for a plus sign as the first digit of a channel. -/
def withoutPlus : List Char → List Char
  | [u, v, w, x, y, z] => [plusAsZero u, v, plusAsZero w, x, plusAsZero y, z]
  | cs => cs

theorem ofHex?_short {x y z : Char} {color : Color} :
    ofHex? [x, y, z] = some color ↔ Hexadecimal [x, y, z] color := by
  simp only [ofHex?, Option.bind_eq_bind, Option.bind_eq_some_iff, Option.some.injEq]
  constructor
  · rintro ⟨i, hi, j, hj, k, hk, rfl⟩
    exact .short (isSingle_iff.mpr ⟨i, hi, rfl⟩) (isSingle_iff.mpr ⟨j, hj, rfl⟩)
      (isSingle_iff.mpr ⟨k, hk, rfl⟩)
  · rintro (⟨hr, hg, hb⟩ | _)
    obtain ⟨i, hi, rfl⟩ := isSingle_iff.mp hr
    obtain ⟨j, hj, rfl⟩ := isSingle_iff.mp hg
    obtain ⟨k, hk, rfl⟩ := isSingle_iff.mp hb
    exact ⟨i, hi, j, hj, k, hk, rfl⟩

theorem ofHex?_long {u v w x y z : Char} {color : Color} :
    ofHex? [u, v, w, x, y, z] = some color ↔ Hexadecimal (withoutPlus [u, v, w, x, y, z]) color := by
  simp only [ofHex?, withoutPlus, Option.bind_eq_bind, Option.bind_eq_some_iff, Option.some.injEq,
    channel?_eq_some]
  constructor
  · rintro ⟨r, hr, g, hg, b, hb, rfl⟩
    exact .long hr hg hb
  · rintro (_ | ⟨hr, hg, hb⟩)
    exact ⟨_, hr, _, hg, _, hb, rfl⟩

/-- The reader takes the notation, and besides it whatever is the notation with its plus signs as
zeros. -/
theorem ofHex?_eq_some {cs : List Char} {color : Color} :
    ofHex? cs = some color ↔ Hexadecimal (withoutPlus cs) color := by
  unfold ofHex?
  split
  · exact ofHex?_long
  · exact ofHex?_short
  · rename_i hlong hshort
    constructor
    · exact nofun
    · intro h
      unfold withoutPlus at h
      split at h
      · exact absurd rfl (hlong _ _ _ _ _ _)
      · cases h with
        | short => exact absurd rfl (hshort _ _ _)
        | long => exact absurd rfl (hlong _ _ _ _ _ _)

theorem IsDigit.ne_plus {c : Char} {n : Nat} (h : IsDigit c n) : '+' ≠ c := by
  rintro rfl
  exact not_isDigit_plus h

theorem Hexadecimal.notMem_plus {cs : List Char} {color : Color} (h : Hexadecimal cs color) :
    '+' ∉ cs := by
  cases h with
  | short hr hg hb =>
    obtain ⟨i, hi, -⟩ := hr
    obtain ⟨j, hj, -⟩ := hg
    obtain ⟨k, hk, -⟩ := hb
    simp [hi.ne_plus, hj.ne_plus, hk.ne_plus]
  | long hr hg hb =>
    obtain ⟨m, n, hm, hn, -⟩ := hr
    obtain ⟨i, j, hi, hj, -⟩ := hg
    obtain ⟨k, l, hk, hl, -⟩ := hb
    simp [hm.ne_plus, hn.ne_plus, hi.ne_plus, hj.ne_plus, hk.ne_plus, hl.ne_plus]

theorem withoutPlus_of_notMem {cs : List Char} (h : '+' ∉ cs) : withoutPlus cs = cs := by
  have hzero {c : Char} (hc : c ∈ cs) : plusAsZero c = c := by
    rw [plusAsZero, if_neg]
    rintro rfl
    exact h hc
  unfold withoutPlus
  split
  · rw [hzero (by simp), hzero (by simp), hzero (by simp)]
  · rfl

/-- Text behind a number sign is read as hexadecimal notation after plus signs in place of the first of
a channel's two digits are taken as zeros. So what is read is just what the notation gives, except for
a text with such plus signs that is otherwise notation. -/
theorem ofText?_hexadecimal_iff (cs : List Char) :
    (∀ color, ofText? ('#' :: cs) = some color ↔ Hexadecimal (withoutPlus cs) color) ∧
      ((∀ color, ofText? ('#' :: cs) = some color ↔ Hexadecimal cs color) ↔
        ¬ ('+' ∈ cs ∧ ∃ color, Hexadecimal (withoutPlus cs) color)) := by
  have hread (color : Color) :
      ofText? ('#' :: cs) = some color ↔ Hexadecimal (withoutPlus cs) color := ofHex?_eq_some
  refine ⟨hread, ?_⟩
  constructor
  · rintro hagree ⟨hplus, color, hcolor⟩
    exact ((hagree color).mp ((hread color).mpr hcolor)).notMem_plus hplus
  · intro hsigned color
    rw [hread]
    by_cases hplus : '+' ∈ cs
    · constructor
      · intro hcolor
        exact absurd ⟨hplus, color, hcolor⟩ hsigned
      · intro hcolor
        exact absurd hplus hcolor.notMem_plus
    · rw [withoutPlus_of_notMem hplus]

/-- A plus sign and a digit pass for the two digits of a channel, though the text is no notation of a
color. For the only digit of a channel a plus sign does not pass. -/
theorem ofText?_plus :
    ofText? "#+f0000".toList = some (.rgb 15 0 0) ∧
      (∀ color, ¬ Hexadecimal "+f0000".toList color) ∧ ofText? "#+00".toList = none := by
  refine ⟨by decide, ?_, by decide⟩
  intro color h
  exact h.notMem_plus (by decide)

end Logline.Color
