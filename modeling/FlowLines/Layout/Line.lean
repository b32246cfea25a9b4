import FlowLines.Layout.Basic

/-! The plain line, made to be read by people. -/

namespace FlowLines.Layout

open FlowLines.Text (decimal)

def Line.entry (label : String) (shown : Shown) : List Char :=
  label.toList ++ " source=".toList ++ shown.source.toList ++
    ':' :: decimal shown.flow.sourcePort.toNat ++
    ", dest=".toList ++ shown.dest.toList ++ ':' :: decimal shown.flow.destPort.toNat ++
    ", bytes=".toList ++ decimal shown.flow.byteCount.toNat

def line (label : String) : Layout where
  entry shown := .ok (String.ofList (Line.entry label shown))

end FlowLines.Layout
