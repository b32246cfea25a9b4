import FlowLines.Flow.Encode
import FlowLines.Layout.Basic

/-! One JSON object a line: the label, then the flow with its hosts under the names that are
shown. -/

namespace FlowLines.Layout

def JsonLines.members (label : String) (shown : Shown) : Json.Object :=
  let flow := { shown.flow with sourceHost := shown.source, destHost := shown.dest }
  ("label", .text label) :: flow.members

def jsonLines (label : String) : Layout where
  entry shown := .ok (String.ofList (Json.writeObject (JsonLines.members label shown)))
  marker m := String.ofList (Json.writeObject [("label", .text label), ("msg", .text m)])

end FlowLines.Layout
