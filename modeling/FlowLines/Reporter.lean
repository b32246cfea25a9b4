import FlowLines.Note
import FlowLines.Sink
import FlowLines.Tally
import FlowLines.Text.Blank
import FlowLines.Text.Control

/-! Reporting records: a line for every flow, with its hosts under the names that are shown. -/

namespace FlowLines

structure Reporter (σ : Type) where
  layout : Layout
  resolver : Host.Resolver σ
  marker : Option String

def defaultMarker : String := "This is the config"

def unknownHost : String := "unknown"

structure Desk (σ : Type) where
  memory : σ
  sink : Sink := {}
  notes : Array Note := #[]

namespace Desk

variable {σ : Type}

def note (n : Note) (d : Desk σ) : Desk σ := { d with notes := d.notes.push n }

def writeLine (text : String) (d : Desk σ) : Except DeviceFault Unit × Desk σ :=
  let (result, sink) := d.sink.write (Text.Utf8.encode (text.toList ++ ['\n']))
  (result, { d with sink })

def flush (d : Desk σ) : Except DeviceFault Unit × Desk σ :=
  let (result, sink) := d.sink.flush
  (result, { d with sink })

end Desk

namespace Reporter

variable {σ : Type}

/-- The name that the resolver has for a host, or else the host itself.  A blank host is not
asked for, and control characters are made visible so that a flow stays on its line. -/
def showHost (r : Reporter σ) (host : String) (d : Desk σ) : String × Desk σ :=
  if (Text.trimStart host.toList).isEmpty then (unknownHost, d)
  else
    let revealed (s : String) : String := String.ofList (Text.reveal s.toList)
    let (answer, memory) := r.resolver host d.memory
    let d := { d with memory }
    match answer with
    | .ok name => (revealed (if name.isEmpty then host else name), d)
    | .error fault => (revealed host, d.note (.unresolved host fault))

def showFlow (r : Reporter σ) (flow : Flow.Entry) (d : Desk σ) : Shown × Desk σ :=
  let (source, d) := r.showHost flow.sourceHost d
  let (dest, d) := r.showHost flow.destHost d
  ({ flow, source, dest }, d)

/-- A flow that cannot be laid out is noted, and the others go on. -/
def writeFlow (r : Reporter σ) (index : Nat) (flow : Flow.Entry) (d : Desk σ) :
    Except DeviceFault Summary × Desk σ :=
  let (shown, d) := r.showFlow flow d
  match r.layout.entry shown with
  | .error fault => (.ok { entriesFailed := 1 }, d.note (.skippedEntry index fault))
  | .ok line =>
    match d.writeLine line with
    | (.ok (), d) => (.ok { linesWritten := 1 }, d)
    | (.error fault, d) => (.error fault, d)

def writeFlows (r : Reporter σ) : (index : Nat) → Summary → List Flow.Entry → Desk σ →
    Except DeviceFault Summary × Desk σ
  | _, summary, [], d => (.ok summary, d)
  | index, summary, flow :: flows, d =>
    match r.writeFlow index flow d with
    | (.ok s, d) =>
      let summary := ⟨summary.linesWritten + s.linesWritten,
        summary.entriesFailed + s.entriesFailed⟩
      r.writeFlows (index + 1) summary flows d
    | (.error fault, d) => (.error fault, d)

/-- Reports a record, and flushes once at its end. -/
def write (r : Reporter σ) (record : Flow.Record) (d : Desk σ) :
    Except DeviceFault Summary × Desk σ :=
  match r.writeFlows 0 {} record.flows d with
  | (.error fault, d) => (.error fault, d)
  | (.ok summary, d) =>
    match d.flush with
    | (.ok (), d) => (.ok summary, d)
    | (.error fault, d) => (.error fault, d)

def start (r : Reporter σ) (hasConfig : Bool) (d : Desk σ) : Except DeviceFault Unit × Desk σ :=
  let d := d.note (.started hasConfig)
  match r.marker with
  | none => d.flush
  | some marker =>
    match d.writeLine (r.layout.marker marker) with
    | (.ok (), d) => d.flush
    | (.error fault, d) => (.error fault, d)

end Reporter

end FlowLines
