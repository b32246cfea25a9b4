import FlowLines.Flow.Decode
import FlowLines.Reporter

/-! Feeding an input to a reporter: one record a line, one after the other. -/

namespace FlowLines

/-- What one read of a device gives, unless the device has come to its end. -/
inductive Reading
  | bytes (first : UInt8) (rest : List UInt8)
  | fault (fault : DeviceFault)

/-- What a reader hands on to those who ask it for lines: bytes in their order, or a fault with
which it answers in place of a line. -/
inductive Delivery
  | bytes (bytes : List UInt8)
  | fault (fault : DeviceFault)

/-- A read that is interrupted is made again, and the reader keeps what it has of the line, so
that nothing of the interruption is handed on. -/
def Reading.handOn? : Reading → Option Delivery
  | .bytes first rest => some (.bytes (first :: rest))
  | .fault f => if f.kind = .interrupted then none else some (.fault f)

namespace Feed

/-- A line without its line feed, or the fault that ends the input. -/
inductive Piece
  | line (bytes : List UInt8)
  | fault (fault : DeviceFault)

def lineFeed : UInt8 := 10

def carriageReturn : UInt8 := 13

/-- The bytes of the unfinished line and the lines so far are held last first. -/
def cutBytes (unfinished : List UInt8) (done : List Piece) : List UInt8 → List UInt8 × List Piece
  | [] => (unfinished, done)
  | b :: bs =>
    if b = lineFeed then cutBytes [] (.line unfinished.reverse :: done) bs
    else cutBytes (b :: unfinished) done bs

/-- A last line needs no line feed.  A fault is the reader's own answer: the line that it breaks off
is given up, and after an interruption the next one is asked for; any other fault ends the input.
Interruptions that the reader deals with itself are not among the deliveries. -/
def cutFrom (unfinished : List UInt8) (done : List Piece) : List Delivery → List Piece
  | [] => (if unfinished.isEmpty then done else .line unfinished.reverse :: done).reverse
  | .bytes bs :: ds =>
    let (unfinished, done) := cutBytes unfinished done bs
    cutFrom unfinished done ds
  | .fault f :: ds =>
    if f.kind = .interrupted then cutFrom [] done ds else (.fault f :: done).reverse

def cut (input : List Delivery) : List Piece := cutFrom [] [] input

structure Rules where
  failFast : Bool := false
  maxLineLength : Nat := 1048576
  deriving DecidableEq, Repr

def dropReturn (line : List UInt8) : List UInt8 :=
  if line.getLast? = some carriageReturn then line.dropLast else line

def decodeLine (limit : Nat) (line : List UInt8) : Except LineFault (Option Flow.Record) :=
  let line := dropReturn line
  if limit < line.length then .error (.tooLong line.length limit)
  else match Text.Utf8.decode line with
    | .error fault => .error (.notUtf8 fault)
    | .ok text =>
      if (Text.trimStart text).isEmpty then .ok none
      else match Flow.Record.ofLine text with
        | .error fault => .error (.notRecord fault)
        | .ok record => .ok (some record)

inductive Status
  | running
  | closed
  | failed (fault : Fault)

structure Progress (σ : Type) where
  desk : Desk σ
  status : Status := .running
  linesSeen : Nat := 0
  tally : Tally := {}

def standardInput : String := "<stdin>"

structure Run (σ : Type) where
  rules : Rules
  reporter : Reporter σ
  source : String := standardInput

namespace Run

variable {σ : Type}

def takeRecord (r : Run σ) (record : Flow.Record) (p : Progress σ) : Progress σ :=
  let p := { p with tally := p.tally.addRecord }
  match r.reporter.write record p.desk with
  | (.ok summary, desk) => { p with desk, tally := p.tally.addSummary summary }
  | (.error fault, desk) =>
    if fault.kind = .brokenPipe then
      { p with desk := desk.note (.outputClosed r.source), status := .closed }
    else { p with desk, status := .failed (.device fault) }

def takeLine (r : Run σ) (line : List UInt8) (p : Progress σ) : Progress σ :=
  let p := { p with linesSeen := p.linesSeen + 1 }
  match decodeLine r.rules.maxLineLength line with
  | .ok none => p
  | .ok (some record) => r.takeRecord record p
  | .error fault =>
    if r.rules.failFast then { p with status := .failed (.line p.linesSeen fault) }
    else
      { p with
        tally := p.tally.addMalformed
        desk := p.desk.note (.skippedLine r.source p.linesSeen fault) }

def take (r : Run σ) (p : Progress σ) (piece : Piece) : Progress σ :=
  match p.status with
  | .running =>
    match piece with
    | .line bytes => r.takeLine bytes p
    | .fault fault => { p with status := .failed (.device fault) }
  | _ => p

def takeAll (r : Run σ) (pieces : List Piece) (p : Progress σ) : Progress σ := pieces.foldl r.take p

end Run

/-- An output that is closed ends a run without a fault. -/
def Progress.outcome {σ : Type} (p : Progress σ) : Except Fault Tally :=
  match p.status with
  | .failed fault => .error fault
  | _ => .ok p.tally

end Feed

/-- Several inputs, one after the other, with the counts of those that came to their end. -/
structure Feed where
  rules : Feed.Rules := {}
  total : Tally := {}

namespace Feed

variable {σ : Type}

/-- A run that fails is not counted. -/
def runPieces (f : Feed) (reporter : Reporter σ) (source : String) (pieces : List Piece)
    (desk : Desk σ) : Except Fault Tally × Desk σ × Feed :=
  let p := Run.takeAll ⟨f.rules, reporter, source⟩ pieces { desk }
  match p.outcome with
  | .ok tally => (.ok tally, p.desk, { f with total := f.total.merge tally })
  | .error fault => (.error fault, p.desk, f)

def run (f : Feed) (reporter : Reporter σ) (source : String) (input : List Delivery)
    (desk : Desk σ) : Except Fault Tally × Desk σ × Feed :=
  f.runPieces reporter source (cut input) desk

end Feed

end FlowLines
