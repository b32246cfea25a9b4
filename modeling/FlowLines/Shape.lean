import FlowLines.Decimal.Style
import FlowLines.Text.Quoted

/-! What a value in a document turned out to be where another kind of value was wanted. -/

namespace FlowLines

inductive Shape
  | nothing
  | boolean (value : Bool)
  | integer (value : Int)
  | float (value : Float)
  | text (value : List Char)
  | sequence
  | map

/-- Document formats differ in their word for nothing and in the layout of floating-point numbers.
-/
def Shape.describe (nothing : String) (style : Decimal.Style) : Shape → String
  | .nothing => nothing
  | .boolean b => s!"boolean `{b}`"
  | .integer n => s!"integer `{n}`"
  | .float x => s!"floating point `{String.ofList (style.render x)}`"
  | .text s => s!"string {String.ofList (Text.quoted s)}"
  | .sequence => "sequence"
  | .map => "map"

end FlowLines
