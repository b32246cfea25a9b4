import FlowLines.Flow.Entry

/-! How a flow is laid out as one line. -/

namespace FlowLines

structure Shown where
  flow : Flow.Entry
  source : String
  dest : String

namespace Layout

structure Fault where
  reason : String
  deriving DecidableEq, Repr

def Fault.message (f : Fault) : String := s!"Cannot format entry: {f.reason}"

end Layout

structure Layout where
  entry : Shown → Except Layout.Fault String
  marker : String → String := id

end FlowLines
