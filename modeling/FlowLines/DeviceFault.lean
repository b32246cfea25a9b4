/-! Failures of what lies outside the program: files, streams and the name service. -/

namespace FlowLines

inductive DeviceFault.Kind
  | brokenPipe
  | interrupted
  | notFound
  | permissionDenied
  | timedOut
  | connectionReset
  | unexpectedEnd
  | writeZero
  | invalidData
  | other
  deriving DecidableEq, Repr

structure DeviceFault where
  kind : DeviceFault.Kind
  text : String
  deriving DecidableEq, Repr

end FlowLines
