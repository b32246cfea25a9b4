import FlowLines.Fault
import FlowLines.Host.Resolver
import FlowLines.Layout.Basic
import FlowLines.Text.Quoted

/-! What a run tells its operator beside the lines that it writes. -/

namespace FlowLines

inductive Level
  | error
  | warn
  | info
  | debug
  | trace
  deriving DecidableEq, Repr

inductive Note
  | started (hasConfig : Bool)
  | unresolved (host : String) (fault : Host.Fault)
  | skippedEntry (index : Nat) (fault : Layout.Fault)
  | skippedLine (source : String) (number : Nat) (fault : LineFault)
  | outputClosed (source : String)

namespace Note

def level : Note → Level
  | started _ => .info
  | unresolved .. => .debug
  | skippedEntry .. => .warn
  | skippedLine .. => .warn
  | outputClosed _ => .debug

def message : Note → String
  | started _ => "flow formatter initialized"
  | unresolved .. => "host resolution failed, using raw address"
  | skippedEntry .. => "skipping flow that could not be formatted"
  | skippedLine .. => "treating malformed record as empty"
  | outputClosed _ => "output closed, stopping"

/-- Texts stand between quotes in a listing; what is written already does not. -/
inductive Value
  | flag (value : Bool)
  | text (value : String)
  | written (value : String)

def fields : Note → List (String × Value)
  | started hasConfig => [("has_config", .flag hasConfig)]
  | unresolved host fault => [("host", .text host), ("error", .written fault.message)]
  | skippedEntry index fault =>
    [("index", .written (toString index)), ("error", .written fault.message)]
  | skippedLine source number fault =>
    [("source", .text source), ("line", .written (toString number)),
      ("error", .written (Fault.line number fault).message)]
  | outputClosed source => [("source", .text source)]

def Value.write : Value → String
  | flag b => toString b
  | text s => String.ofList (Text.quoted s.toList)
  | written s => s

end Note

end FlowLines
