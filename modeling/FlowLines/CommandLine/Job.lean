import FlowLines.CommandLine.Filter
import FlowLines.CommandLine.Options
import FlowLines.Settings.Decode

/-! One run of the program: its settings, its input, and how it ends. -/

namespace FlowLines.CommandLine

inductive Failure
  | settings (fault : Settings.Fault)
  | input (path : String) (fault : DeviceFault)
  | output (path : String) (fault : DeviceFault)
  | start (fault : DeviceFault)
  | run (fault : Fault)
  | finish (fault : DeviceFault)

namespace Failure

/-- A cause that lies outside the program is named once more on its own. -/
def message : Failure → String
  | settings fault =>
    match fault with
    | .unreadable _ f => s!"{fault.message}: {f.text}"
    | _ => fault.message
  | input path fault => s!"Failed to open input file '{path}': {fault.text}"
  | output path fault => s!"Failed to create output file '{path}': {fault.text}"
  | start fault =>
    let cause := Fault.device fault
    s!"Failed to initialize backend: {cause.message}: {fault.text}"
  | run fault =>
    match fault with
    | .device f => s!"Processing failed: {fault.message}: {f.text}"
    | .line .. => s!"Processing failed: {fault.message}"
  | finish fault => fault.text

end Failure

structure Job where
  settings : Settings := {}
  hasConfig : Bool := false
  rules : Feed.Rules := {}
  source : String := Feed.standardInput

def Job.ofOptions (o : Options) (file : Option (Except DeviceFault (List UInt8))) :
    Except Failure Job := do
  let job : Job := { rules := o.rules, source := o.input.getD Feed.standardInput }
  match o.config, file with
  | some path, some content =>
    let loaded ← (Settings.ofFile path content).mapError .settings
    return { job with
      settings := o.settings loaded.settings, hasConfig := !loaded.document.untag.isNull }
  | _, _ => return { job with settings := o.settings {} }

namespace Job

variable {σ : Type}

inductive Stage (σ : Type)
  | going (progress : Feed.Progress σ)
  | failed (failure : Failure) (desk : Desk σ)

def Stage.desk : Stage σ → Desk σ
  | .going p => p.desk
  | .failed _ desk => desk

def reporter (j : Job) (service : Host.NameService σ) : Reporter (Host.NameCache × σ) :=
  j.settings.reporter service

def start (j : Job) (r : Reporter σ) (desk : Desk σ) : Stage σ :=
  match r.start j.hasConfig desk with
  | (.ok (), desk) => .going { desk }
  | (.error fault, desk) => .failed (.start fault) desk

def feed (j : Job) (r : Reporter σ) (pieces : List Feed.Piece) : Stage σ → Stage σ
  | .going p => .going (Feed.Run.takeAll ⟨j.rules, r, j.source⟩ pieces p)
  | stage => stage

def finish : Stage σ → Except Failure Tally × Desk σ
  | .failed failure desk => (.error failure, desk)
  | .going p =>
    match p.outcome with
    | .error fault => (.error (.run fault), p.desk)
    | .ok tally =>
      match p.desk.flush with
      | (.ok (), desk) => (.ok tally, desk)
      | (.error fault, desk) => (.error (.finish fault), desk)

def run (j : Job) (r : Reporter σ) (input : List Delivery) (desk : Desk σ) :
    Except Failure Tally × Desk σ :=
  finish (j.feed r (Feed.cut input) (j.start r desk))

end Job

/-! What an operator reads. -/

namespace Log

def levelName (l : Level) : String :=
  ((levels.find? (·.2 = l)).map (·.1.toUpper)).getD ""

def line (level : Level) (message : String) (fields : List (String × Note.Value)) : String :=
  " ".intercalate (levelName level :: message :: fields.map fun (k, v) => k ++ "=" ++ v.write)

def place (n : Note) : String :=
  programName ++ match n with
    | .started _ => "::record_formatter"
    | .unresolved .. => "::record_formatter"
    | .skippedEntry .. => "::record_formatter"
    | .skippedLine .. => "::pipeline::stream"
    | .outputClosed _ => "::pipeline::stream"

def messageField : String := "message"

def note (f : Filter) (n : Note) : Option String :=
  if f.admits (place n) (messageField :: n.fields.map (·.1)) n.level then
    some (line n.level n.message n.fields)
  else none

def settings (f : Filter) (s : Settings) : Option String :=
  if f.admits programName [messageField, "settings"] .debug then
    some (line .debug "effective settings" [("settings", .written s.describe)])
  else none

def statistics (t : Tally) (time : String) : List String :=
  ["Final statistics:", s!"  Records read: {t.recordsRead}",
    s!"  Malformed records: {t.recordsMalformed}", s!"  Lines written: {t.linesWritten}",
    s!"  Failed entries: {t.entriesFailed}", s!"  Processing time: {time}"]

def failure (f : Failure) : String := s!"{programName}: {f.message}"

def usage (f : Usage) : String := s!"error: {f.message}"

end Log

def successStatus : UInt32 := 0

def failureStatus : UInt32 := 1

def usageStatus : UInt32 := 2

def endStatus {α : Type} : Except Failure α → UInt32
  | .ok _ => successStatus
  | .error _ => failureStatus

end FlowLines.CommandLine
