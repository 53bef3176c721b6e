import Logline.Unicode.CombiningClass
import Logline.Unicode.Composition
/-!
The composed normal form of a text: every character split into its parts, marks put into the order
of their classes, and parts composed again. A character that has equivalents and is never composed
stays as it is; the treatment of domain names replaces all of those beforehand.
-/
namespace Logline.Unicode

/-- Parts of a character that is composed at most `depth` times over. -/
def parts (depth : Nat) (c : Char) : List Char :=
  match depth with
  | 0 => [c]
  | depth + 1 =>
    match split? c with
    | none => [c]
    | some (first, second) => parts depth first ++ [second]

/-- No character is composed more than three times over, and a second part never is. -/
def decompose (cs : List Char) : List Char :=
  cs.flatMap (parts 3)

/-- Put a character in front of marks in order: behind those of a smaller class. -/
def insertMark (c : Char) : List Char → List Char
  | [] => [c]
  | d :: ds =>
    if 0 < combiningClass d ∧ combiningClass d < combiningClass c then d :: insertMark c ds
    else c :: d :: ds

/-- Every run of marks in the order of their classes; marks of one class keep their order. -/
def sortMarks (cs : List Char) : List Char :=
  cs.foldr insertMark []

/-- Compose a starter with what follows it. `skipped` are the marks passed over, the last one first;
a character behind a mark of its own or a higher class does not reach the starter. -/
def composeFrom (starter : Char) (skipped : List Char) : List Char → List Char
  | [] => starter :: skipped.reverse
  | c :: cs =>
    let blocked := skipped.head?.any fun mark => combiningClass c ≤ combiningClass mark
    match if blocked then none else compose? starter c with
    | some whole => composeFrom whole skipped cs
    | none =>
      if isStarter c then starter :: skipped.reverse ++ composeFrom c [] cs
      else composeFrom starter (c :: skipped) cs

/-- Compose behind each starter; marks in front of the first one stay. -/
def composeAll : List Char → List Char
  | [] => []
  | c :: cs => if isStarter c then composeFrom c [] cs else c :: composeAll cs

/-- Composed normal form. -/
def normal (cs : List Char) : List Char :=
  composeAll (sortMarks (decompose cs))

def isNormal (cs : List Char) : Bool :=
  normal cs == cs

end Logline.Unicode
