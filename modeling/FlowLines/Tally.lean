import FlowLines.Time.Span

/-! Counts of what a run has read and written. -/

namespace FlowLines

structure Summary where
  linesWritten : Nat := 0
  entriesFailed : Nat := 0
  deriving DecidableEq, Repr, Inhabited

/-- Malformed records are among the records that were read. -/
structure Tally where
  recordsRead : Nat := 0
  recordsMalformed : Nat := 0
  linesWritten : Nat := 0
  entriesFailed : Nat := 0
  elapsed : Time.Span := {}
  deriving DecidableEq, Repr, Inhabited

namespace Tally

def addRecord (t : Tally) : Tally := { t with recordsRead := t.recordsRead + 1 }

def addMalformed (t : Tally) : Tally :=
  { t with recordsRead := t.recordsRead + 1, recordsMalformed := t.recordsMalformed + 1 }

def addSummary (t : Tally) (s : Summary) : Tally :=
  { t with
    linesWritten := t.linesWritten + s.linesWritten
    entriesFailed := t.entriesFailed + s.entriesFailed }

def merge (t u : Tally) : Tally where
  recordsRead := t.recordsRead + u.recordsRead
  recordsMalformed := t.recordsMalformed + u.recordsMalformed
  linesWritten := t.linesWritten + u.linesWritten
  entriesFailed := t.entriesFailed + u.entriesFailed
  elapsed := t.elapsed + u.elapsed

end Tally

end FlowLines
