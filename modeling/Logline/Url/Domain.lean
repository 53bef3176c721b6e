import Logline.Text
import Logline.Unicode.BidiClass
import Logline.Unicode.CombiningClass
import Logline.Unicode.DomainMapping
import Logline.Unicode.JoiningType
import Logline.Unicode.Mark
import Logline.Unicode.Normal
import Logline.Url.Punycode
/-!
Domain names: their characters brought into one form, and the labels that are refused. Of labels with
letters beyond ASCII it is told what they may begin with, where joiners may stand, and which
directions of writing may come together.
-/
namespace Logline.Url

open Unicode (BidiClass JoiningType)

/-- Marks that no host has, since they stand between the parts of an address. -/
def hostMarks : List Char :=
  ['#', '/', ':', '<', '>', '?', '@', '[', '\\', ']', '^', '|']

/-- ASCII characters that no domain has. -/
def isForbidden (c : Char) : Bool :=
  c ≤ ' ' || c == '\x7f' || c == '%' || hostMarks.contains c

def isAscii (c : Char) : Bool :=
  c.toNat < 0x80

def nonJoiner : Char := '\u200c'

def joiner : Char := '\u200d'

/-- The nearest letter in a connection, past those that do not break it, has a type of some kind. -/
def nearestJoins (kind : JoiningType → Bool) (cs : List Char) : Bool :=
  ((cs.map JoiningType.of).find? (· != .transparent)).any kind

/-- Whether a character may stand between `before`, its last character first, and `after`. A joiner
and a non-joiner follow a virama; a non-joiner also stands between two letters that connect. -/
def isPlaced (before : List Char) (c : Char) (after : List Char) : Bool :=
  (c != joiner && c != nonJoiner) || before.head?.any Unicode.isVirama
    || (c == nonJoiner && nearestJoins JoiningType.joinsNext before
      && nearestJoins JoiningType.joinsPrevious after)

/-- Whether every character behind `before` may stand in its place. -/
def arePlaced (before : List Char) : List Char → Bool
  | [] => true
  | c :: cs => isPlaced before c cs && arePlaced (c :: before) cs

/-- Whether letters beyond ASCII make a label: no mark in front, and all joiners in place. -/
def isWellPlaced (label : List Char) : Bool :=
  !(label.head?.any Unicode.isMark) && arePlaced [] label

namespace Direction

/-- Classes of European numbers and of what has no direction, which both directions take. -/
def isShared : BidiClass → Bool
  | .europeanNumber | .europeanSeparator | .europeanTerminator | .commonSeparator
  | .nonspacingMark | .boundaryNeutral | .otherNeutral => true
  | _ => false

def isRightLetter : BidiClass → Bool
  | .rightToLeft | .arabicLetter => true
  | _ => false

/-- Whether a class is written from right to left, which brings the rules of direction into force
for the whole domain. -/
def isRight (k : BidiClass) : Bool :=
  isRightLetter k || k == .arabicNumber

/-- The last class that is not a mark; without one the end is always right. -/
def endsWith (kind : BidiClass → Bool) (ks : List BidiClass) : Bool :=
  (ks.reverse.find? (· != .nonspacingMark)).all kind

/-- What follows a letter written from left to right. -/
def isLeftTail (ks : List BidiClass) : Bool :=
  ks.all (fun k => k == .leftToRight || isShared k)
    && endsWith (fun k => k == .leftToRight || k == .europeanNumber) ks

/-- What follows a letter written from right to left; digits are of one kind. -/
def isRightTail (ks : List BidiClass) : Bool :=
  ks.all (fun k => isRight k || isShared k)
    && endsWith (fun k => isRight k || k == .europeanNumber) ks
    && !(ks.contains .europeanNumber && ks.contains .arabicNumber)

/-- Whether the classes of a label go in one direction; the first one says in which. -/
def isOne : List BidiClass → Bool
  | [] => true
  | k :: ks =>
    if k = .leftToRight then isLeftTail ks else isRightLetter k && isRightTail ks

end Direction

/-- Where a character of some label is written from right to left, every label goes in one
direction. -/
def haveDirections (labels : List (List Char)) : Bool :=
  let classes := labels.map (·.map BidiClass.of)
  !(classes.any (·.any Direction.isRight)) || classes.all Direction.isOne

/-- Bytes of a text in which a percent sign with two digits stands for a byte. -/
def percentDecode : List Char → List UInt8
  | [] => []
  | '%' :: a :: b :: cs =>
    match Text.hexValue? a, Text.hexValue? b with
    | some high, some low => (16 * high + low).toUInt8 :: percentDecode cs
    | _, _ => 0x25 :: percentDecode (a :: b :: cs)
  | c :: cs => String.utf8EncodeChar c ++ percentDecode cs

/-- Most letters that a label has before it is encoded, and most characters behind the mark of an
encoded one. -/
def maxLetters : Nat := 1000
def maxCode : Nat := 2000

/-- A label in its own letters. -/
def plainLabel? (label : List Char) : Option (List Char) :=
  if label.any isForbidden then none
  else if label.all isAscii || (label.length ≤ maxLetters && isWellPlaced label) then some label
  else none

/-- Letters of an encoded label. One is encoded for the sake of a letter beyond ASCII, and its
letters are in the form that a domain has. -/
def encodedLabel? (code : List Char) : Option (List Char) := do
  let letters ← if code.length ≤ maxCode && code.all isAscii then Punycode.decode? code else none
  if letters.all isAscii || letters.any isForbidden then none
  else if letters.all Unicode.isDomainForm && Unicode.isNormal letters && isWellPlaced letters
  then some letters
  else none

def readLabel? : List Char → Option (List Char)
  | 'x' :: 'n' :: '-' :: '-' :: code => encodedLabel? code
  | label => plainLabel? label

/-- Labels of a domain in their own letters. -/
def domain? (cs : List Char) : Option (List (List Char)) := do
  let decoded ← Text.ofUtf8? (percentDecode cs)
  let form ← decoded.mapM Unicode.domainForm?
  let labels ← (Text.splitAt '.' (Unicode.normal form.flatten)).mapM readLabel?
  if haveDirections labels then some labels else none

end Logline.Url
