import FlowLines.Proofs.Feed.Lines
import FlowLines.Proofs.Reporter.Frame
import Mathlib.Algebra.Ring.Nat

/-! A run that passes over malformed lines, on a sink that takes everything, is a fold over the
lines of its input. -/

namespace FlowLines

open FlowLines.Flow (Record)

variable {σ : Type}

namespace Reporter

variable (r : Reporter σ)

def writeAll (records : List Record) (d : Desk σ) : Desk σ :=
  records.foldl (fun d record => (r.write record d).2) d

theorem writeAll_concat (records : List Record) (record : Record) (d : Desk σ) :
    r.writeAll (records ++ [record]) d = (r.write record (r.writeAll records d)).2 := by
  simp [writeAll]

theorem accepts_writeAll {d : Desk σ} (h : d.sink.Accepts) (records : List Record) :
    (r.writeAll records d).sink.Accepts := by
  induction records generalizing d with
  | nil => exact h
  | cons record records ih =>
    obtain ⟨s, d', hw, reported⟩ := r.write_reported h record
    rw [writeAll, List.foldl_cons, hw]
    exact ih reported.accepts

theorem write_eq_on {d : Desk σ} (h : d.sink.Accepts) (record : Record) :
    r.write record d = ((r.write record { memory := d.memory }).1,
      d.on (r.write record { memory := d.memory }).2) := by
  conv => lhs; rw [show d = d.on { memory := d.memory } from (d.on_empty d.memory).symm]
  exact r.write_on h Sink.accepts_default record

end Reporter

namespace Feed

structure Ledger (σ : Type) where
  desk : Desk σ
  lines : Nat := 0
  tally : Tally := {}

def Ledger.enter (r : Reporter σ) (source : String) (l : Ledger σ) : Saying → Ledger σ
  | .ok none => { l with lines := l.lines + 1 }
  | .ok (some record) =>
    let (result, desk) := r.write record l.desk
    ⟨desk, l.lines + 1, l.tally.addRecord.addSummary (result.toOption.getD {})⟩
  | .error fault =>
    ⟨l.desk.note (.skippedLine source (l.lines + 1) fault), l.lines + 1, l.tally.addMalformed⟩

def Ledger.progress (l : Ledger σ) : Progress σ :=
  { desk := l.desk, linesSeen := l.lines, tally := l.tally }

def records (said : List Saying) : List Record := said.filterMap (·.toOption.join)

def faults (said : List Saying) : List LineFault :=
  said.filterMap fun
    | .error fault => some fault
    | .ok _ => none

theorem records_append (said said' : List Saying) :
    records (said ++ said') = records said ++ records said' := List.filterMap_append

theorem faults_append (said said' : List Saying) :
    faults (said ++ said') = faults said ++ faults said' := List.filterMap_append

section Concat

variable (said : List Saying)

theorem records_concat_blank : records (said ++ [.ok none]) = records said := by
  rw [records_append]
  exact List.append_nil _

theorem faults_concat_blank : faults (said ++ [.ok none]) = faults said := by
  rw [faults_append]
  exact List.append_nil _

theorem records_concat_record (record : Record) :
    records (said ++ [.ok (some record)]) = records said ++ [record] := records_append said _

theorem faults_concat_record (record : Record) :
    faults (said ++ [.ok (some record)]) = faults said := by
  rw [faults_append]
  exact List.append_nil _

theorem records_concat_fault (fault : LineFault) :
    records (said ++ [.error fault]) = records said := by
  rw [records_append]
  exact List.append_nil _

theorem faults_concat_fault (fault : LineFault) :
    faults (said ++ [.error fault]) = faults said ++ [fault] := faults_append said _

end Concat

/-- What holds of an account after the lines of which it was made: the sink and the memory are as
if only the records had been reported, and the counts and notes tell what the lines said. -/
structure Ledger.Balanced (r : Reporter σ) (start : Desk σ) (said : List Saying) (l : Ledger σ) :
    Prop where
  accepts : l.desk.sink.Accepts
  sink : l.desk.sink = (start.on (r.writeAll (records said) { memory := start.memory })).sink
  memory : l.desk.memory = (r.writeAll (records said) { memory := start.memory }).memory
  read : l.tally.recordsRead = (records said).length + (faults said).length
  malformed : l.tally.recordsMalformed = (faults said).length
  flows : l.tally.linesWritten + l.tally.entriesFailed =
    ((records said).map (·.flows.length)).sum
  noted : ∃ added, l.desk.notes.toList = start.notes.toList ++ added ∧
    added.countP Note.isSkippedLine = (faults said).length ∧
    added.countP Note.isWarning = (faults said).length + l.tally.entriesFailed

namespace Ledger

variable {r : Reporter σ} {start : Desk σ} {said : List Saying} {l : Ledger σ}

theorem balanced_start (h : start.sink.Accepts) : Balanced r start [] { desk := start } where
  accepts := h
  sink := by rw [show records [] = [] from rfl, Reporter.writeAll, List.foldl_nil, Desk.on_empty]
  memory := rfl
  read := rfl
  malformed := rfl
  flows := rfl
  noted := ⟨[], by simp, rfl, rfl⟩

theorem Balanced.enter_blank (h : Balanced r start said l) (source : String) :
    Balanced r start (said ++ [.ok none]) (l.enter r source (.ok none)) := by
  have hr := records_concat_blank said
  have hf := faults_concat_blank said
  exact ⟨h.accepts, by rw [hr]; exact h.sink, by rw [hr]; exact h.memory,
    by rw [hr, hf]; exact h.read, by rw [hf]; exact h.malformed, by rw [hr]; exact h.flows,
    by rw [hf]; exact h.noted⟩

theorem Balanced.enter_fault (h : Balanced r start said l) (source : String) (fault : LineFault) :
    Balanced r start (said ++ [.error fault]) (l.enter r source (.error fault)) := by
  have hr := records_concat_fault said fault
  have hf := faults_concat_fault said fault
  obtain ⟨added, hn, hs, hw⟩ := h.noted
  refine ⟨h.accepts, by rw [hr]; exact h.sink, by rw [hr]; exact h.memory, ?_, ?_,
    by rw [hr]; exact h.flows,
    added ++ [.skippedLine source (l.lines + 1) fault], ?_, ?_, ?_⟩
  · simp [enter, Tally.addMalformed, hr, hf, h.read, Nat.add_assoc]
  · simp [enter, Tally.addMalformed, hf, h.malformed]
  · simp [enter, Desk.note, hn]
  · simp [hf, hs, Note.isSkippedLine]
  · simp [enter, Tally.addMalformed, hf, hw, Note.isWarning, Note.level]
    omega

theorem Balanced.enter_record (h : Balanced r start said l) (source : String) (record : Record) :
    Balanced r start (said ++ [.ok (some record)]) (l.enter r source (.ok (some record))) := by
  have hr := records_concat_record said record
  have hf := faults_concat_record said record
  obtain ⟨s, d, hw, reported⟩ := r.write_reported h.accepts record
  have hwrite := r.write_eq_on h.accepts record
  have hall := r.write_eq_on (r.accepts_writeAll Sink.accepts_default (records said)
    (d := { memory := start.memory })) record
  have hd : d = l.desk.on (r.write record { memory := l.desk.memory }).2 := by
    simpa [hw] using congrArg Prod.snd hwrite
  obtain ⟨added, hn, hs, hwarn⟩ := h.noted
  obtain ⟨more, hn', hs', hwarn'⟩ := reported.noted
  have henter : l.enter r source (.ok (some record)) =
      ⟨d, l.lines + 1, l.tally.addRecord.addSummary s⟩ := by
    simp [enter, hw, Except.toOption]
  rw [henter]
  refine ⟨reported.accepts, ?_, ?_, ?_, ?_, ?_, added ++ more, ?_, ?_, ?_⟩
  · rw [hr, Reporter.writeAll_concat, hall, Desk.on_assoc, hd, h.memory]
    simp only [Desk.on]
    rw [h.sink]
    rfl
  · rw [hr, Reporter.writeAll_concat, hall, hd, h.memory]
    rfl
  · simp [Tally.addSummary, Tally.addRecord, hr, hf, h.read]
    omega
  · simp [Tally.addSummary, Tally.addRecord, hf, h.malformed]
  · have := h.flows
    have := reported.total
    simp [Tally.addSummary, Tally.addRecord, hr]
    omega
  · rw [hn', hn, List.append_assoc]
  · simp [hf, hs, hs']
  · simp [Tally.addSummary, Tally.addRecord, hf, hwarn, hwarn']
    omega

theorem Balanced.enter (h : Balanced r start said l) (source : String) (saying : Saying) :
    Balanced r start (said ++ [saying]) (l.enter r source saying) := by
  match saying with
  | .ok none => exact h.enter_blank source
  | .ok (some record) => exact h.enter_record source record
  | .error fault => exact h.enter_fault source fault

theorem Balanced.foldl (h : Balanced r start said l) (source : String) (next : List Saying) :
    Balanced r start (said ++ next) (next.foldl (Ledger.enter r source) l) := by
  -- on the lines to come; those entered before are carried along
  induction next generalizing said l with
  | nil => simpa using h
  | cons saying next ih =>
    rw [List.foldl_cons, ← List.singleton_append, ← List.append_assoc]
    exact ih (h.enter source saying)

end Ledger

namespace Run

theorem take_line {r : Run σ} (skip : r.rules.failFast = false) {l : Ledger σ}
    (h : l.desk.sink.Accepts) (line : List UInt8) :
    r.take l.progress (.line line) =
      (l.enter r.reporter r.source (decodeLine r.rules.maxLineLength line)).progress := by
  simp only [take, Ledger.progress, takeLine]
  match decodeLine r.rules.maxLineLength line with
  | .ok none => rfl
  | .ok (some record) =>
    obtain ⟨s, d, hw, -⟩ := r.reporter.write_reported h record
    simp [takeRecord, Ledger.enter, hw, Except.toOption]
  | .error fault => simp [skip, Ledger.enter]

theorem takeAll_lines {r : Run σ} (skip : r.rules.failFast = false) {start : Desk σ}
    {said : List Saying} {l : Ledger σ} (h : l.Balanced r.reporter start said)
    (lines : List (List UInt8)) :
    r.takeAll (lines.map .line) l.progress =
      ((lines.map (decodeLine r.rules.maxLineLength)).foldl (Ledger.enter r.reporter r.source)
        l).progress := by
  induction lines generalizing said l with
  | nil => rfl
  | cons line lines ih =>
    rw [takeAll, List.map_cons, List.foldl_cons, take_line skip h.accepts]
    exact ih (h.enter r.source _)

end Run

end Feed

end FlowLines
