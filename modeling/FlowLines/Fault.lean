import FlowLines.DeviceFault
import FlowLines.Json.Fault
import FlowLines.Text.Utf8

/-! Why a run over an input stops early, or passes over a line. -/

namespace FlowLines

inductive LineFault
  | tooLong (length limit : Nat)
  | notUtf8 (fault : Text.Utf8.Fault)
  | notRecord (fault : Json.Fault)

inductive Fault
  | line (number : Nat) (fault : LineFault)
  | device (fault : DeviceFault)

namespace Fault

def message : Fault → String
  | line _ (.tooLong length limit) => s!"Line too long: {length} > {limit}"
  | line n (.notUtf8 f) => s!"Parse error at line {n}: invalid UTF-8: {f.message}"
  | line n (.notRecord f) => s!"Parse error at line {n}: {f.message}"
  | device f => s!"IO error: {f.text}"

def isBrokenPipe : Fault → Bool
  | device f => f.kind = .brokenPipe
  | line .. => false

end Fault

end FlowLines
