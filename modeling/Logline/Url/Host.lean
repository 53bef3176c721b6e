import Logline.Url.Domain
import Logline.Decimal
/-!
Hosts of an address: domains, addresses of four bytes and addresses of eight pieces.
-/
namespace Logline.Url

/-- Number of a part of a four-byte address, in the base that its first characters show. A number
beyond 32 bits is given as it is. -/
def addressNumber? : List Char → Option Nat
  | [] => none
  | '0' :: 'x' :: cs | '0' :: 'X' :: cs => Text.ofDigits? 16 cs
  | '0' :: c :: cs => Text.ofDigits? 8 (c :: cs)
  | cs => Text.ofDigits? 10 cs

/-- Parts without an empty one at the end. -/
def addressParts (labels : List (List Char)) : List (List Char) :=
  if labels.getLast? = some [] then labels.dropLast else labels

/-- A host whose last part is a number can only be a four-byte address. -/
def endsInNumber (labels : List (List Char)) : Bool :=
  match (addressParts labels).getLast? with
  | none => false
  | some last => (last ≠ [] && last.all Char.isDigit) || (addressNumber? last).isSome

/-- Up to three bytes, and a last number that fills the bytes left. -/
def isFourBytes (labels : List (List Char)) : Bool :=
  let parts := addressParts labels
  match parts.mapM addressNumber? with
  | none => false
  | some numbers =>
    numbers.length ≤ 4 && numbers.dropLast.all (· ≤ 255)
      && (numbers.getLast?.getD 0) < Nat.pow 256 (5 - numbers.length)

def isByte (part : List Char) : Bool :=
  part ≠ [] && part.all Char.isDigit && (part.length == 1 || part.head? ≠ some '0')
    && Decimal.value part ≤ 255

def isPiece (part : List Char) : Bool :=
  1 ≤ part.length && part.length ≤ 4 && part.all Text.isHexDigit

/-- Pieces that the parts between colons amount to. The last part may be a four-byte address, which
amounts to two. -/
def pieceCount? : List (List Char) → Option Nat
  | [] => some 0
  | [last] =>
    if isPiece last then some 1
    else
      let bytes := Text.splitAt '.' last
      if bytes.length = 4 ∧ bytes.all isByte then some 2 else none
  | part :: parts => if isPiece part then (pieceCount? parts).map (· + 1) else none

/-- Text before and after the first pair of colons. -/
def cutColons : List Char → Option (List Char × List Char)
  | ':' :: ':' :: cs => some ([], cs)
  | c :: cs => (cutColons cs).map fun (before, after) => (c :: before, after)
  | [] => none

def colonParts (cs : List Char) : List (List Char) :=
  if cs = [] then [] else Text.splitAt ':' cs

/-- Eight pieces, or fewer around one pair of colons that stands for the rest. -/
def isEightPieces (cs : List Char) : Bool :=
  match cutColons cs with
  | none => pieceCount? (colonParts cs) = some 8
  | some (before, after) =>
    (colonParts before).all isPiece
      && (pieceCount? (colonParts after)).any fun n => (colonParts before).length + n ≤ 7

/-- Content of brackets that surround a whole text. -/
def bracketed? (cs : List Char) : Option (List Char) :=
  match cs with
  | '[' :: cs => if cs.getLast? = some ']' then some cs.dropLast else none
  | _ => none

/-- Host of a scheme that names servers. -/
def isHost (cs : List Char) : Bool :=
  if cs.head? = some '[' then (bracketed? cs).any isEightPieces
  else
    match domain? cs with
    | none | some [[]] => false
    | some labels => !endsInNumber labels || isFourBytes labels

/-- Host of any other scheme, whose characters are kept. -/
def isOpaqueHost (cs : List Char) : Bool :=
  if cs.head? = some '[' then (bracketed? cs).any isEightPieces
  else !cs.any fun c => ['\x00', '\t', '\n', '\r', ' '].contains c || hostMarks.contains c

end Logline.Url
