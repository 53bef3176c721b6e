import Logline.Palette
import Logline.StyleSheet
import Logline.Text
/-!
Styles of field values as CSS text. A rule may ask for a color of the value's own, which is given
once and kept.
-/
namespace Logline

/-- Whether the output can show styles. -/
inductive Support where
  | inline | unsupported
  deriving DecidableEq, Repr

namespace Support

/-- Browsers that cannot show styles in their consoles name one of these. -/
def unableEngines : List String :=
  ["MSIE", "Trident"]

def ofUserAgent (agent : Option String) : Support :=
  match agent with
  | none => .inline
  | some agent =>
    if unableEngines.any fun name => Text.contains name.toList agent.toList then .unsupported
    else .inline

def name : Support → String
  | .inline => "inline"
  | .unsupported => "unsupported"

end Support

structure Stylist where
  sheet : StyleSheet
  support : Support
  colors : ColorStore

namespace Stylist

/-- What stands in a property's value for the color of the field's value. -/
def colorMark : List Char := "%(color)".toList

def ofSheet (draws : Draws) (sheet : StyleSheet) (support : Support) : Stylist :=
  ⟨sheet, support, .empty draws⟩

/-- Text of one declaration, the first color mark in it replaced. -/
def declare (colors : ColorStore) (field value : String) (d : String × String) :
    List Char × ColorStore :=
  if Text.contains colorMark d.2.toList then
    let (color, colors) := colors.colorFor field value
    let text := Text.replaceFirst colorMark color.toList d.2.toList
    (d.1.toList ++ ':' :: (text ++ [';']), colors)
  else (d.1.toList ++ ':' :: (d.2.toList ++ [';']), colors)

/-- Text of declarations in order. -/
def declareAll (colors : ColorStore) (field value : String) :
    Declarations → List Char × ColorStore
  | [] => ([], colors)
  | d :: ds =>
    let (front, colors) := declare colors field value d
    let (rest, colors) := declareAll colors field value ds
    (front ++ rest, colors)

/-- Style of a field's value; none if nothing applies or styles cannot be shown. -/
def style? (s : Stylist) (field value : String) : Option String × Stylist :=
  match s.support, s.sheet.rule? field value with
  | .unsupported, _ | _, none => (none, s)
  | .inline, some rule =>
    let (text, colors) := declareAll s.colors field value (s.sheet.merged rule)
    (if text = [] then none else some (String.ofList text), { s with colors })

end Stylist

end Logline
