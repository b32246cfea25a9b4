import FlowLines.DeviceFault
import FlowLines.Host.NameCache
import FlowLines.Host.Table
import FlowLines.Time.Span

/-! From hosts as they stand in a flow to the names under which they are shown. -/

namespace FlowLines.Host

inductive Fault
  | late (host : String) (timeout : Time.Span)
  | failed (host : String) (fault : DeviceFault)
  | unknown (host : String)
  deriving DecidableEq, Repr

def Fault.message : Fault → String
  | .late host timeout =>
    let span := String.ofList timeout.write
    s!"lookup of {host} timed out after {span}"
  | .failed host fault => s!"lookup of {host} failed: {fault.text}"
  | .unknown host => s!"no name known for {host}"

abbrev Resolver (σ : Type) := String → σ → Except Fault String × σ

inductive Reply
  | name (name : String)
  | failed (fault : DeviceFault)
  | late
  deriving DecidableEq, Repr

abbrev NameService (σ : Type) := Address → σ → Reply × σ

/-- An empty name is none. -/
def Reply.outcome (timeout : Time.Span) (a : Address) : Reply → Except Fault String
  | .name n => if n.isEmpty then .error (.unknown a.text) else .ok n
  | .failed fault => .error (.failed a.text fault)
  | .late => .error (.late a.text timeout)

namespace Resolver

variable {σ : Type}

def raw : Resolver σ := fun host s => (.ok host, s)

def table (t : Table) (behind : Option (Resolver σ)) : Resolver σ := fun host s =>
  match t.name? host with
  | some name => (.ok name, s)
  | none =>
    match behind with
    | some resolve => resolve host s
    | none => (.error (.unknown host), s)

/-- Addresses are shown by the names that the service has for them; anything else is a name
already.  An address that fails is remembered by its own text, so that it costs one time-out and
not one a flow. -/
def reverse (timeout : Time.Span) (service : NameService σ) : Resolver (NameCache × σ) :=
  fun host (cache, s) =>
    match Address.parse host with
    | none => (.ok host, cache, s)
    | some a =>
      match cache.get? a with
      | (some name, cache) => (.ok name, cache, s)
      | (none, cache) =>
        let (reply, s) := service a s
        match reply.outcome timeout a with
        | .ok name => (.ok name, cache.insert a name, s)
        | .error fault => (.error fault, cache.insert a host, s)

end Resolver

def defaultTimeout : Time.Span := Time.Span.ofMillis 250

end FlowLines.Host
