import Logline.Text
import Logline.Url.Domain
/-!
Percent encoding reads back. The decoder of an address finds the bytes of the text again, so texts
with the same encoding are the same text. An encoded text is a word over few characters, none of
which has a meaning in a query.
-/
namespace Logline.Text

/-- Texts with the same bytes are the same text. -/
theorem toUtf8_inj {a b : List Char} : toUtf8 a = toUtf8 b ↔ a = b := by
  constructor
  · intro h
    have hbytes : a.utf8Encode = b.utf8Encode := congrArg List.toByteArray h
    apply String.ofList_injective
    rw [← String.toByteArray_inj]
    exact hbytes
  · exact congrArg toUtf8

namespace Percent

/-- Characters that stand for themselves in a word: A to Z, a to z, 0 to 9 and four marks. -/
def isPlain (c : Char) : Bool :=
  ('A' ≤ c && c ≤ 'Z') || ('a' ≤ c && c ≤ 'z') || ('0' ≤ c && c ≤ '9') ||
    c == '-' || c == '_' || c == '.' || c == '~'

def hexDigits : List Char :=
  "0123456789ABCDEF".toList

/-- Plain characters and bytes in a row, each byte as a percent sign and two digits. -/
inductive Word : List Char → Prop
  | nil : Word []
  | plain {c : Char} {cs : List Char} : isPlain c = true → Word cs → Word (c :: cs)
  | byte {high low : Char} {cs : List Char} :
      high ∈ hexDigits → low ∈ hexDigits → Word cs → Word ('%' :: high :: low :: cs)

theorem Word.append {a b : List Char} (ha : Word a) (hb : Word b) : Word (a ++ b) := by
  induction ha with
  | nil => exact hb
  | plain hc _ ih => exact .plain hc ih
  | byte hhigh hlow _ ih => exact .byte hhigh hlow ih

/-- Whether a character stands in no word. -/
def isForeign (c : Char) : Bool :=
  c != '%' && !isPlain c

theorem isForeign_of_isPlain {c : Char} (h : isPlain c = true) : isForeign c = false := by
  rw [isForeign, h]
  exact Bool.and_false _

theorem isPlain_of_mem_hexDigits {c : Char} (h : c ∈ hexDigits) : isPlain c = true := by
  have hall : hexDigits.all isPlain = true := by decide
  exact List.all_eq_true.mp hall c h

/-- Every character of a word is plain or a percent sign. -/
theorem Word.isForeign_of_mem {cs : List Char} (h : Word cs) : ∀ c ∈ cs, isForeign c = false := by
  induction h with
  | nil => intro c hc; cases hc
  | plain hc _ ih =>
    intro d hd
    rcases List.mem_cons.mp hd with rfl | hd
    · exact isForeign_of_isPlain hc
    · exact ih d hd
  | byte hhigh hlow _ ih =>
    intro d hd
    rcases List.mem_cons.mp hd with rfl | hd
    · rfl
    rcases List.mem_cons.mp hd with rfl | hd
    · exact isForeign_of_isPlain (isPlain_of_mem_hexDigits hhigh)
    rcases List.mem_cons.mp hd with rfl | hd
    · exact isForeign_of_isPlain (isPlain_of_mem_hexDigits hlow)
    · exact ih d hd

theorem Word.filter_isForeign {cs : List Char} (h : Word cs) : cs.filter isForeign = [] := by
  rw [List.filter_eq_nil_iff]
  intro c hc
  rw [h.isForeign_of_mem c hc]
  decide

theorem isPlain_of_isUnreserved {c : Char} (h : isUnreserved c = true) : isPlain c = true := by
  have hupper : c.isUpper = ('A' ≤ c && c ≤ 'Z') := Bool.decide_and _ _
  have halphanum : c.isAlphanum =
      (c.isUpper || ('a' ≤ c && c ≤ 'z') || ('0' ≤ c && c ≤ '9')) := rfl
  rw [isUnreserved, halphanum, hupper] at h
  exact h

theorem hexDigit_mem_hexDigits : ∀ n < 16, hexDigit n ∈ hexDigits := by
  decide

theorem hexValue?_hexDigit : ∀ n < 16, hexValue? (hexDigit n) = some n := by
  decide

theorem word_flatMap_encodeByte (bs : List UInt8) : Word (bs.flatMap encodeByte) := by
  induction bs with
  | nil => exact .nil
  | cons b bs ih =>
    have hb := b.toNat_lt
    exact .byte (hexDigit_mem_hexDigits _ (by omega)) (hexDigit_mem_hexDigits _ (by omega)) ih

theorem word_encode (cs : List Char) : Word (encode cs) := by
  induction cs with
  | nil => exact .nil
  | cons c cs ih =>
    rw [encode, List.flatMap_cons, encodeChar]
    split
    · rename_i hc
      exact .plain (isPlain_of_isUnreserved hc) ih
    · exact (word_flatMap_encodeByte _).append ih

theorem percentDecode_encodeByte_append (b : UInt8) (cs : List Char) :
    Url.percentDecode (encodeByte b ++ cs) = b :: Url.percentDecode cs := by
  have hb := b.toNat_lt
  have hhigh := hexValue?_hexDigit (b.toNat / 16) (by omega)
  have hlow := hexValue?_hexDigit (b.toNat % 16) (by omega)
  have hvalue : (16 * (b.toNat / 16) + b.toNat % 16).toUInt8 = b := by
    rw [Nat.div_add_mod]
    exact UInt8.ofNat_toNat
  simp only [encodeByte, List.cons_append, List.nil_append, Url.percentDecode, hhigh, hlow, hvalue]

theorem percentDecode_flatMap_append (bs : List UInt8) (cs : List Char) :
    Url.percentDecode (bs.flatMap encodeByte ++ cs) = bs ++ Url.percentDecode cs := by
  induction bs with
  | nil => rfl
  | cons b bs ih =>
    rw [List.flatMap_cons, List.append_assoc, percentDecode_encodeByte_append, ih, List.cons_append]

theorem percentDecode_cons {c : Char} (hc : c ≠ '%') (cs : List Char) :
    Url.percentDecode (c :: cs) = String.utf8EncodeChar c ++ Url.percentDecode cs := by
  rw [Url.percentDecode]
  rintro a b ds h
  exact absurd h hc

/-- The decoder of an address finds the bytes of an encoded text. -/
theorem percentDecode_encode (cs : List Char) : Url.percentDecode (encode cs) = toUtf8 cs := by
  induction cs with
  | nil => rfl
  | cons c cs ih =>
    rw [encode, List.flatMap_cons, toUtf8, List.flatMap_cons, encodeChar]
    split
    · rename_i hc
      have hpercent : c ≠ '%' := by
        rintro rfl
        contradiction
      rw [List.singleton_append, percentDecode_cons hpercent]
      exact congrArg _ ih
    · rw [percentDecode_flatMap_append]
      exact congrArg _ ih

theorem encode_inj {a b : List Char} : encode a = encode b ↔ a = b := by
  constructor
  · intro h
    rw [← toUtf8_inj, ← percentDecode_encode, ← percentDecode_encode, h]
  · exact congrArg encode

end Percent

end Logline.Text
