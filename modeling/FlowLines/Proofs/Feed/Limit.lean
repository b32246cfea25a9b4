import FlowLines.Layout.Line
import FlowLines.Proofs.Except
import FlowLines.Proofs.Feed.Fold
import FlowLines.Proofs.Reporter.Limit

/-! Runs on a sink that becomes full or cannot be flushed: where they end, what is stored by then,
and what they count. -/

namespace FlowLines

open FlowLines.Flow (Entry Record)

variable {σ : Type}

structure Sink.Grows (s s' : Sink) : Prop where
  roomy : s'.room = none
  stored : s.stored.toList <+: s'.stored.toList
  fullFault : s'.fullFault = s.fullFault

namespace Sink.Grows

theorem refl {s : Sink} (h : s.room = none) : s.Grows s := ⟨h, List.prefix_refl _, rfl⟩

theorem trans {a b c : Sink} (hab : a.Grows b) (hbc : b.Grows c) : a.Grows c :=
  ⟨hbc.roomy, hab.stored.trans hbc.stored, hbc.fullFault.trans hab.fullFault⟩

theorem size_le {a b : Sink} (h : a.Grows b) : a.stored.size ≤ b.stored.size := by
  have := h.stored.length_le
  rwa [Array.length_toList, Array.length_toList] at this

end Sink.Grows

theorem Reporter.grows_write (r : Reporter σ) {d : Desk σ} (h : d.sink.room = none)
    (record : Record) : d.sink.Grows (r.write record d).2.sink := by
  rw [r.sink_write h]
  refine ⟨Sink.room_accept_of_roomy h _, ?_, rfl⟩
  dsimp only
  rw [Sink.toList_accept]
  exact List.prefix_append _ _

namespace Feed

def Progress.limited (limit : Nat) (p : Progress σ) : Progress σ :=
  { p with desk := p.desk.limited limit }

def flows (said : List Saying) : List Entry := (records said).flatMap (·.flows)

namespace Run

variable (r : Run σ)

theorem takeAll_cons (piece : Piece) (pieces : List Piece) (p : Progress σ) :
    r.takeAll (piece :: pieces) p = r.takeAll pieces (r.take p piece) := rfl

theorem take_line_of_running {p : Progress σ} (h : p.status = .running) (line : List UInt8) :
    r.take p (.line line) = r.takeLine line p := by
  simp only [take, h]

theorem take_of_stopped {p : Progress σ} (h : p.status ≠ .running) (piece : Piece) :
    r.take p piece = p := by
  unfold take
  split
  · contradiction
  · rfl

theorem takeAll_of_stopped {p : Progress σ} (h : p.status ≠ .running) (pieces : List Piece) :
    r.takeAll pieces p = p := by
  induction pieces with
  | nil => rfl
  | cons piece pieces ih =>
    rw [takeAll_cons, r.take_of_stopped h]
    exact ih

theorem takeAll_append (a b : List Piece) (p : Progress σ) :
    r.takeAll (a ++ b) p = r.takeAll b (r.takeAll a p) := List.foldl_append

theorem takeAll_concat (pieces : List Piece) (piece : Piece) (p : Progress σ) :
    r.takeAll (pieces ++ [piece]) p = r.take (r.takeAll pieces p) piece := takeAll_append r _ _ p

theorem sink_takeRecord (record : Record) (p : Progress σ) :
    (r.takeRecord record p).desk.sink = (r.reporter.write record p.desk).2.sink := by
  unfold takeRecord
  dsimp only
  match r.reporter.write record p.desk with
  | (.ok summary, d) => rfl
  | (.error fault, d) =>
    dsimp only
    split <;> rfl

theorem takeLine_record {line : List UInt8} {record : Record}
    (h : decodeLine r.rules.maxLineLength line = .ok (some record)) (p : Progress σ) :
    r.takeLine line p = r.takeRecord record { p with linesSeen := p.linesSeen + 1 } := by
  simp only [takeLine, h]

theorem sink_take (p : Progress σ) (piece : Piece) :
    (r.take p piece).desk.sink = p.desk.sink ∨
      ∃ line record, piece = .line line ∧ p.status = .running ∧
        decodeLine r.rules.maxLineLength line = .ok (some record) := by
  cases hs : p.status with
  | closed => exact .inl (by rw [r.take_of_stopped (by simp [hs])])
  | failed fault => exact .inl (by rw [r.take_of_stopped (by simp [hs])])
  | running =>
    cases piece with
    | fault fault => exact .inl (by simp only [take, hs])
    | line line =>
      rw [r.take_line_of_running hs]
      cases hd : decodeLine r.rules.maxLineLength line with
      | error fault =>
        refine .inl ?_
        simp only [takeLine, hd]
        split <;> rfl
      | ok said =>
        cases said with
        | none => exact .inl (by simp only [takeLine, hd])
        | some record => exact .inr ⟨line, record, rfl, rfl, hd⟩

theorem grows_take {p : Progress σ} (h : p.desk.sink.room = none) (piece : Piece) :
    p.desk.sink.Grows (r.take p piece).desk.sink := by
  rcases r.sink_take p piece with hsink | ⟨line, record, rfl, hs, hd⟩
  · rw [hsink]
    exact .refl h
  · rw [r.take_line_of_running hs, r.takeLine_record hd, sink_takeRecord]
    exact r.reporter.grows_write h record

theorem grows_takeAll {p : Progress σ} (h : p.desk.sink.room = none) (pieces : List Piece) :
    p.desk.sink.Grows (r.takeAll pieces p).desk.sink := by
  induction pieces generalizing p with
  | nil => exact .refl h
  | cons piece pieces ih =>
    have one := r.grows_take h piece
    exact one.trans (ih one.roomy)

theorem takeRecord_limited {p : Progress σ} (h : p.desk.sink.room = none) {limit : Nat}
    (record : Record) (fits : (r.takeRecord record p).desk.sink.stored.size ≤ limit) :
    r.takeRecord record (p.limited limit) = (r.takeRecord record p).limited limit := by
  rw [sink_takeRecord, r.reporter.size_write h] at fits
  have hw := r.reporter.write_limited h fits
  unfold takeRecord
  simp only [Progress.limited, hw]
  match r.reporter.write record p.desk with
  | (.ok summary, d) => rfl
  | (.error fault, d) =>
    dsimp only
    split <;> rfl

theorem takeLine_limited {p : Progress σ} (h : p.desk.sink.room = none) {limit : Nat}
    (line : List UInt8) (fits : (r.takeLine line p).desk.sink.stored.size ≤ limit) :
    r.takeLine line (p.limited limit) = (r.takeLine line p).limited limit := by
  match hd : decodeLine r.rules.maxLineLength line with
  | .ok none =>
    simp only [takeLine, hd]
    rfl
  | .ok (some record) =>
    rw [r.takeLine_record hd] at fits
    rw [r.takeLine_record hd, r.takeLine_record hd]
    exact r.takeRecord_limited (p := { p with linesSeen := p.linesSeen + 1 }) h record fits
  | .error fault =>
    simp only [takeLine, hd]
    split <;> rfl

theorem take_limited {p : Progress σ} (h : p.desk.sink.room = none) {limit : Nat} (piece : Piece)
    (fits : (r.take p piece).desk.sink.stored.size ≤ limit) :
    r.take (p.limited limit) piece = (r.take p piece).limited limit := by
  by_cases hs : p.status = .running
  · cases piece with
    | fault fault =>
      simp only [take, Progress.limited, hs]
    | line line =>
      have hs' : (p.limited limit).status = .running := hs
      rw [r.take_line_of_running hs] at fits
      rw [r.take_line_of_running hs, r.take_line_of_running hs']
      exact r.takeLine_limited h line fits
  · have hs' : (p.limited limit).status ≠ .running := hs
    rw [r.take_of_stopped hs, r.take_of_stopped hs']

theorem takeAll_limited {p : Progress σ} (h : p.desk.sink.room = none) {limit : Nat}
    (pieces : List Piece) (fits : (r.takeAll pieces p).desk.sink.stored.size ≤ limit) :
    r.takeAll pieces (p.limited limit) = (r.takeAll pieces p).limited limit := by
  -- what is stored at the end bounds what is stored on the way
  induction pieces generalizing p with
  | nil => rfl
  | cons piece pieces ih =>
    have hroomy := (r.grows_take h piece).roomy
    have hone : (r.take p piece).desk.sink.stored.size ≤ limit :=
      Nat.le_trans (r.grows_takeAll hroomy pieces).size_le fits
    rw [takeAll_cons, r.take_limited h piece hone]
    exact ih hroomy fits

theorem lines_of_running {p : Progress σ} {pieces : List Piece}
    (h : (r.takeAll pieces p).status = .running) :
    ∃ lines : List (List UInt8), pieces = lines.map .line := by
  induction pieces generalizing p with
  | nil => exact ⟨[], rfl⟩
  | cons piece pieces ih =>
    rw [takeAll_cons] at h
    obtain ⟨lines, rfl⟩ := ih h
    cases piece with
    | line line => exact ⟨line :: lines, rfl⟩
    | fault fault =>
      have hstopped : (r.take p (.fault fault)).status ≠ .running := by
        unfold take
        split
        · simp
        · assumption
      rw [r.takeAll_of_stopped hstopped] at h
      exact absurd h hstopped

theorem takeRecord_of_ok {record : Record} {p : Progress σ} {s : Summary} {d : Desk σ}
    (h : r.reporter.write record p.desk = (.ok s, d)) :
    r.takeRecord record p = { p with desk := d, tally := p.tally.addRecord.addSummary s } := by
  simp only [takeRecord, h]

theorem takeRecord_of_error {record : Record} {p : Progress σ} {fault : DeviceFault}
    (h : (r.reporter.write record p.desk).1 = .error fault) :
    (r.takeRecord record p).status ≠ .running ∧
      (r.takeRecord record p).outcome =
        if fault.kind = .brokenPipe then .ok p.tally.addRecord else .error (.device fault) := by
  match hw : r.reporter.write record p.desk with
  | (.ok summary, d) =>
    rw [hw] at h
    cases h
  | (.error fault', d) =>
    obtain rfl : fault' = fault := by
      rw [hw] at h
      exact Except.error.inj h
    simp only [takeRecord, hw]
    split <;> exact ⟨by simp, rfl⟩

theorem takeRecord_of_running {record : Record} {p : Progress σ}
    (h : (r.takeRecord record p).status = .running) :
    ∃ s d, r.reporter.write record p.desk = (.ok s, d) ∧
      r.takeRecord record p = { p with desk := d, tally := p.tally.addRecord.addSummary s } := by
  match hw : r.reporter.write record p.desk with
  | (.ok s, d) => exact ⟨s, d, rfl, r.takeRecord_of_ok hw⟩
  | (.error fault, d) => exact absurd h (r.takeRecord_of_error (by rw [hw])).1

/-- The sink does not take the record on a line, and up to that line the run goes on. -/
structure Refused (desk : Desk σ) (lines : List (List UInt8)) (line : List UInt8)
    (record : Record) (fault : DeviceFault) : Prop where
  going : (r.takeAll (lines.map .line) { desk }).status = .running
  decoded : decodeLine r.rules.maxLineLength line = .ok (some record)
  refused : (r.reporter.write record (r.takeAll (lines.map .line) { desk }).desk).1 = .error fault

theorem Refused.takeAll {r : Run σ} {desk : Desk σ} {lines : List (List UInt8)}
    {line : List UInt8} {record : Record} {fault : DeviceFault}
    (h : r.Refused desk lines line record fault) (after : List Piece) :
    let p := r.takeAll (lines.map .line) { desk }
    r.takeAll (lines.map .line ++ .line line :: after) { desk } =
      r.takeRecord record { p with linesSeen := p.linesSeen + 1 } := by
  intro p
  rw [takeAll_append, takeAll_cons, r.take_line_of_running h.going, r.takeLine_record h.decoded]
  exact r.takeAll_of_stopped (r.takeRecord_of_error
    (p := { p with linesSeen := p.linesSeen + 1 }) h.refused).1 after

theorem exists_refused {desk : Desk σ} (h : desk.sink.room = none) {limit : Nat}
    (fits : desk.sink.stored.size ≤ limit) {pieces : List Piece}
    (beyond : limit < (r.takeAll pieces { desk }).desk.sink.stored.size) :
    ∃ lines line record after, pieces = lines.map .line ++ .line line :: after ∧
      r.Refused (desk.limited limit) lines line record desk.sink.fullFault ∧
      (r.takeAll pieces { desk := desk.limited limit }).desk.sink.stored.toList =
        (r.takeAll pieces { desk }).desk.sink.stored.toList.take limit := by
  obtain ⟨before, piece, after, rfl, hbefore, hlost⟩ := exists_lost
    (P := fun pieces => (r.takeAll pieces { desk }).desk.sink.stored.size ≤ limit) fits
    (Nat.not_le_of_lt beyond)
  rw [takeAll_concat] at hlost
  -- up to the piece with which the limit is passed, both runs are the same
  generalize hq : r.takeAll before { desk } = q at hbefore hlost
  have hgrows := r.grows_takeAll (p := { desk }) h before
  rw [hq] at hgrows
  rcases r.sink_take q piece with hsink | ⟨line, record, rfl, hs, hd⟩
  · rw [hsink] at hlost
    exact absurd hbefore hlost
  · obtain ⟨lines, rfl⟩ := r.lines_of_running (by rwa [hq])
    -- from there on only the run without a limit goes on, and what is stored is a part of its bytes
    have htake := r.take_line_of_running hs line
    rw [r.takeLine_record hd] at htake
    have hsink : (r.take q (.line line)).desk.sink = (r.reporter.write record q.desk).2.sink := by
      rw [htake, sink_takeRecord]
    have hover : limit < q.desk.sink.stored.size +
        (r.reporter.bytes record.flows q.desk.memory).length := by
      rw [hsink, r.reporter.size_write hgrows.roomy] at hlost
      exact Nat.lt_of_not_le hlost
    obtain ⟨d, hw, hstored⟩ := r.reporter.write_beyond hgrows.roomy hbefore hover
    have hlimited : r.takeAll (lines.map .line) { desk := desk.limited limit } =
        q.limited limit := by
      rw [← hq]
      exact r.takeAll_limited (p := { desk }) h _ (by rwa [hq])
    have refused : r.Refused (desk.limited limit) lines line record desk.sink.fullFault := by
      refine ⟨by rw [hlimited]; exact hs, hd, ?_⟩
      rw [hlimited, ← hgrows.fullFault]
      exact congrArg Prod.fst hw
    refine ⟨lines, line, record, after, rfl, refused, ?_⟩
    have hlater := r.grows_takeAll (p := r.take q (.line line)) (r.grows_take hgrows.roomy _).roomy
      after
    obtain ⟨more, hmore⟩ := hlater.stored
    rw [Nat.not_le, ← Array.length_toList] at hlost
    have hwrite : (r.reporter.write record (q.limited limit).desk).2 = d := congrArg Prod.snd hw
    rw [refused.takeAll after, sink_takeRecord, hlimited, takeAll_append, hq, takeAll_cons, ← hmore,
      List.take_append_of_le_length (Nat.le_of_lt hlost), hsink, ← hstored]
    exact congrArg (·.sink.stored.toList) hwrite

theorem running_of_takeAll {p : Progress σ} {pieces : List Piece}
    (h : (r.takeAll pieces p).status = .running) : p.status = .running := by
  by_contra hstopped
  rw [r.takeAll_of_stopped hstopped] at h
  exact hstopped h

theorem takeAll_of_running {r : Run σ} {P : List Saying → Progress σ → Prop}
    (step : ∀ {said p line}, P said p → (r.takeLine line p).status = .running →
      P (said ++ [decodeLine r.rules.maxLineLength line]) (r.takeLine line p))
    {said : List Saying} {p : Progress σ} (start : P said p) {lines : List (List UInt8)}
    (running : (r.takeAll (lines.map .line) p).status = .running) :
    P (said ++ lines.map (decodeLine r.rules.maxLineLength)) (r.takeAll (lines.map .line) p) := by
  -- on the lines to come; what was said before them is carried along
  induction lines generalizing said p with
  | nil => rwa [List.map_nil, List.append_nil]
  | cons line lines ih =>
    have hp : p.status = .running := r.running_of_takeAll running
    rw [List.map_cons, takeAll_cons, r.take_line_of_running hp] at running
    have hline := r.running_of_takeAll running
    rw [List.map_cons, List.map_cons, takeAll_cons, r.take_line_of_running hp,
      ← List.singleton_append, ← List.append_assoc]
    exact ih (step start hline) running

/-- What a run that still goes on counts after lines that said this, on any sink. -/
structure Accounted (start : σ) (said : List Saying) (p : Progress σ) : Prop where
  memory : p.desk.memory = r.reporter.remember (flows said) start
  read : p.tally.recordsRead = (records said).length + (faults said).length
  malformed : p.tally.recordsMalformed = (faults said).length
  lines : p.tally.linesWritten = (r.reporter.texts (flows said) start).length
  total : p.tally.linesWritten + p.tally.entriesFailed = (flows said).length

theorem accounted_start (desk : Desk σ) : r.Accounted desk.memory [] { desk } :=
  ⟨rfl, rfl, rfl, rfl, rfl⟩

variable {r}

theorem Accounted.takeRecord {start : σ} {said : List Saying} {p : Progress σ}
    (h : r.Accounted start said p) {record : Record}
    (running : (r.takeRecord record p).status = .running) :
    r.Accounted start (said ++ [.ok (some record)]) (r.takeRecord record p) := by
  have hrecords := records_concat_record said record
  have hfaults := faults_concat_record said record
  have hflows : flows (said ++ [.ok (some record)]) = flows said ++ record.flows := by
    simp [flows, hrecords]
  obtain ⟨s, d, hw, htake⟩ := r.takeRecord_of_running running
  obtain ⟨lines, total, hmemory⟩ := r.reporter.whole_of_ok hw
  rw [h.memory] at lines hmemory
  rw [htake]
  constructor
  case memory => rw [hflows, Reporter.remember_append, hmemory]
  case read =>
    have := h.read
    simp only [Tally.addSummary, Tally.addRecord, hrecords, hfaults, List.length_append,
      List.length_singleton]
    omega
  case malformed =>
    rw [hfaults]
    exact h.malformed
  case lines =>
    rw [hflows, Reporter.texts_append, List.length_append, ← h.lines, ← lines]
    rfl
  case total =>
    have := h.total
    rw [hflows, List.length_append]
    simp only [Tally.addSummary, Tally.addRecord]
    omega

theorem Accounted.takeLine {start : σ} {said : List Saying} {p : Progress σ}
    (h : r.Accounted start said p) {line : List UInt8}
    (running : (r.takeLine line p).status = .running) :
    r.Accounted start (said ++ [decodeLine r.rules.maxLineLength line]) (r.takeLine line p) := by
  match hd : decodeLine r.rules.maxLineLength line with
  | .ok none =>
    simp only [Run.takeLine, hd]
    constructor <;> simp only [flows, records_concat_blank, faults_concat_blank]
    exacts [h.memory, h.read, h.malformed, h.lines, h.total]
  | .ok (some record) =>
    rw [r.takeLine_record hd] at running ⊢
    have hseen : r.Accounted start said { p with linesSeen := p.linesSeen + 1 } :=
      ⟨h.memory, h.read, h.malformed, h.lines, h.total⟩
    exact hseen.takeRecord running
  | .error fault =>
    simp only [Run.takeLine, hd] at running ⊢
    split at running
    · cases running
    · next skip =>
      rw [if_neg skip]
      constructor <;>
        simp only [flows, records_concat_fault, faults_concat_fault, List.length_append,
          List.length_singleton]
      case memory => exact h.memory
      case read => exact congrArg (· + 1) h.read
      case malformed => exact congrArg (· + 1) h.malformed
      case lines => exact h.lines
      case total => exact h.total

theorem Accounted.takeAll {start : σ} {said : List Saying} {p : Progress σ}
    (h : r.Accounted start said p) {lines : List (List UInt8)}
    (running : (r.takeAll (lines.map .line) p).status = .running) :
    r.Accounted start (said ++ lines.map (decodeLine r.rules.maxLineLength))
      (r.takeAll (lines.map .line) p) :=
  takeAll_of_running (fun h => h.takeLine) h running

end Run

/-- A run at a desk whose sink takes so many more bytes, beside the run where it takes them all and
gets these. -/
structure Within (f : Feed) (reporter : Reporter σ) (source : String) (input : List Delivery)
    (room : Nat) (desk : Desk σ) (bytes : List UInt8) : Prop where
  sent : (f.run reporter source input desk.unlimited).2.1.sink.stored.toList =
    desk.sink.stored.toList ++ bytes
  stored : (f.run reporter source input desk).2.1.sink.stored.toList =
    desk.sink.stored.toList ++ bytes.take room
  fits : bytes.length ≤ room →
    (f.run reporter source input desk).1 = (f.run reporter source input desk.unlimited).1 ∧
    (f.run reporter source input desk).2.2 = (f.run reporter source input desk.unlimited).2.2
  full : room < bytes.length → ∃ lines line record,
    lines.map .line ++ [.line line] <+: cut input ∧
    Run.Refused ⟨f.rules, reporter, source⟩ desk lines line record desk.sink.fullFault

structure Stops (f : Feed) (reporter : Reporter σ) (source : String) (input : List Delivery)
    (desk : Desk σ) (lines : List (List UInt8)) (line : List UInt8) (fault : DeviceFault) :
    Prop where
  unread : ∀ other, lines.map .line ++ [.line line] <+: cut other →
    f.run reporter source other desk = f.run reporter source input desk
  failed : fault.kind ≠ .brokenPipe →
    (f.run reporter source input desk).1 = .error (.device fault) ∧
    (f.run reporter source input desk).2.2 = f
  closed : fault.kind = .brokenPipe → ∃ tally,
    (f.run reporter source input desk).1 = .ok tally ∧
    (f.run reporter source input desk).2.2 = { f with total := f.total.merge tally } ∧
    let said := lines.map (decodeLine f.rules.maxLineLength)
    tally.recordsRead = (records said).length + (faults said).length + 1 ∧
    tally.recordsMalformed = (faults said).length ∧
    tally.linesWritten = (reporter.texts (flows said) desk.memory).length ∧
    tally.linesWritten + tally.entriesFailed = (flows said).length

theorem run_of_takeAll {f : Feed} {reporter : Reporter σ} {source : String}
    {input : List Delivery} {desk : Desk σ} {p : Progress σ}
    (h : Run.takeAll ⟨f.rules, reporter, source⟩ (cut input) { desk } = p) :
    f.run reporter source input desk = (p.outcome, p.desk,
      match p.outcome with
      | .ok tally => { f with total := f.total.merge tally }
      | .error _ => f) := by
  rw [run, runPieces, h]
  cases p.outcome <;> rfl

theorem exists_within (f : Feed) (reporter : Reporter σ) (source : String)
    (input : List Delivery) {desk : Desk σ} {room : Nat} (h : desk.sink.room = some room) :
    ∃ bytes, f.Within reporter source input room desk bytes := by
  have hd := desk.eq_limited h
  have hroomy : desk.unlimited.sink.room = none := rfl
  let r : Run σ := ⟨f.rules, reporter, source⟩
  let free := r.takeAll (cut input) { desk := desk.unlimited }
  obtain ⟨bytes, hbytes⟩ := (r.grows_takeAll (p := { desk := desk.unlimited }) hroomy
    (cut input)).stored
  have hsent : free.desk.sink.stored.toList = desk.sink.stored.toList ++ bytes := hbytes.symm
  have hsize : free.desk.sink.stored.size = desk.sink.stored.size + bytes.length := by
    rw [← Array.length_toList, hsent, List.length_append, Array.length_toList]
  have hfree := run_of_takeAll
    (show r.takeAll (cut input) { desk := desk.unlimited } = free from rfl)
  by_cases hle : bytes.length ≤ room
  -- either the limit is never met, or there is a record that meets it
  · have hfits : free.desk.sink.stored.size ≤ desk.sink.stored.size + room := by omega
    have hlimited : r.takeAll (cut input) { desk } =
        free.limited (desk.sink.stored.size + room) := by
      have hl := r.takeAll_limited (p := { desk := desk.unlimited }) hroomy (cut input) hfits
      rwa [Progress.limited, ← hd] at hl
    have hrun := run_of_takeAll hlimited
    refine ⟨bytes, by rw [hfree]; exact hsent, ?_, fun _ => ?_, fun hlt => ?_⟩
    · rw [hrun]
      exact Desk.toList_limited hsent room
    · rw [hrun, hfree]
      exact ⟨rfl, rfl⟩
    · exact absurd hlt (Nat.not_lt_of_le hle)
  · have hover : desk.sink.stored.size + room < free.desk.sink.stored.size := by omega
    have hstart : desk.unlimited.sink.stored.size ≤ desk.sink.stored.size + room :=
      Nat.le_add_right _ room
    obtain ⟨lines, line, record, after, hcut, refused, hstored⟩ :=
      r.exists_refused hroomy hstart hover
    rw [← hd] at refused hstored
    have hrun := run_of_takeAll (show r.takeAll (cut input) { desk } = _ from rfl)
    refine ⟨bytes, by rw [hfree]; exact hsent, ?_, fun hfits => absurd hfits hle, fun _ => ?_⟩
    · rw [hrun]
      refine hstored.trans ?_
      rw [show (r.takeAll (cut input) _).desk.sink.stored.toList = _ from hsent,
        ← Array.length_toList, List.take_length_add_append]
    · refine ⟨lines, line, record, ⟨after, ?_⟩, refused⟩
      rw [hcut, List.append_assoc, List.singleton_append]

theorem stops_of_refused (f : Feed) (reporter : Reporter σ) (source : String)
    {input : List Delivery} {desk : Desk σ} {lines : List (List UInt8)} {line : List UInt8}
    {record : Record} {fault : DeviceFault} (begins : lines.map .line ++ [.line line] <+: cut input)
    (refused : Run.Refused ⟨f.rules, reporter, source⟩ desk lines line record fault) :
    f.Stops reporter source input desk lines line fault := by
  let r : Run σ := ⟨f.rules, reporter, source⟩
  let p := r.takeAll (lines.map .line) { desk }
  have hrun {input : List Delivery} (begins : lines.map .line ++ [.line line] <+: cut input) :
      r.takeAll (cut input) { desk } =
        r.takeRecord record { p with linesSeen := p.linesSeen + 1 } := by
    obtain ⟨after, hcut⟩ := begins
    rw [← hcut, List.append_assoc, List.singleton_append]
    exact refused.takeAll after
  have houtcome := (r.takeRecord_of_error (p := { p with linesSeen := p.linesSeen + 1 })
    refused.refused).2
  refine ⟨fun other hother => ?unread, fun hkind => ?failed, fun hkind => ?closed⟩
  case unread => rw [run_of_takeAll (hrun hother), run_of_takeAll (hrun begins)]
  case failed =>
    rw [if_neg hkind] at houtcome
    rw [run_of_takeAll (hrun begins), houtcome]
    exact ⟨rfl, rfl⟩
  case closed =>
    rw [if_pos hkind] at houtcome
    have accounted := (r.accounted_start desk).takeAll refused.going
    rw [run_of_takeAll (hrun begins), houtcome]
    exact ⟨_, rfl, rfl, congrArg (· + 1) accounted.read, accounted.malformed, accounted.lines,
      accounted.total⟩

/-- On a sink that takes so many more bytes and then fails, records and inputs are reported like
where it takes them all, up to the first byte that does not fit.  What comes of a run that the sink
ends depends on its fault, and on nothing that is still to be read. -/
theorem run_within (f : Feed) (reporter : Reporter σ) {desk : Desk σ} {room : Nat}
    (h : desk.sink.room = some room) :
    (∀ record, reporter.Within room record desk) ∧
    ∀ source input, (∃ bytes, f.Within reporter source input room desk bytes) ∧
      ∀ lines line record fault, lines.map .line ++ [.line line] <+: cut input →
        Run.Refused ⟨f.rules, reporter, source⟩ desk lines line record fault →
        f.Stops reporter source input desk lines line fault :=
  ⟨reporter.within h, fun source input => ⟨f.exists_within reporter source input h,
    fun _ _ _ _ begins refused => f.stops_of_refused reporter source begins refused⟩⟩

theorem run_within_closed_pipe :
    let reporter : Reporter Unit := ⟨Layout.line "x", Host.Resolver.raw, none⟩
    let line := ["\x7b\"flows\":[\x7b\"source_host\":\"a\",\"source_port\":1,",
      "\"dest_host\":\"b\",\"dest_port\":2,\"bytes\":3\x7d]\x7d"].flatMap
        fun part => Text.Utf8.encode part.toList
    let desk : Desk Unit :=
      { memory := (), sink := { room := some 40, fullFault := ⟨.brokenPipe, "gone"⟩ } }
    desk.sink.room = some 40 ∧
    ∃ tally, (({} : Feed).run reporter standardInput [.bytes (line ++ lineFeed :: line)] desk).1 =
        .ok tally ∧
      tally.recordsRead = 2 ∧ tally.linesWritten = 1 := by
  intro reporter line desk
  let r : Run Unit := ⟨{}, reporter, standardInput⟩
  let record : Record := ⟨[.new "a" 1 "b" 2 3]⟩
  have hlines : lines [line ++ lineFeed :: line].flatten = [line, line] := by decide +kernel
  have begins : [line].map .line ++ [.line line] <+: cut [.bytes (line ++ lineFeed :: line)] := by
    have hcut := cut_bytes [line ++ lineFeed :: line]
    rw [hlines] at hcut
    exact hcut ▸ List.prefix_refl _
  have hread : decodeLine r.rules.maxLineLength line = .ok (some record) :=
    eq_ok_of_toOption (by decide +kernel)
  let after := (reporter.write record desk).2
  have hwrite : reporter.write record desk = (.ok ⟨1, 0⟩, after) :=
    Prod.ext (by decide +kernel) rfl
  have hagain : (reporter.write record after).1 = .error ⟨.brokenPipe, "gone"⟩ := by
    decide +kernel
  have hone : r.takeAll ([line].map .line) { desk } =
      { desk := after, linesSeen := 1, tally := { recordsRead := 1, linesWritten := 1 } } := by
    rw [List.map_singleton, r.takeAll_cons, r.take_line_of_running rfl, r.takeLine_record hread,
      r.takeRecord_of_ok hwrite]
    rfl
  have refused : r.Refused desk [line] line record ⟨.brokenPipe, "gone"⟩ :=
    ⟨by rw [hone], hread, by rw [hone, hagain]⟩
  have hsaid : [line].map (decodeLine r.rules.maxLineLength) = [.ok (some record)] :=
    congrArg ([·]) hread
  obtain ⟨-, hrun⟩ := run_within {} reporter (show desk.sink.room = some 40 from rfl)
  obtain ⟨-, -, closed⟩ := (hrun standardInput _).2 [line] line record _ begins refused
  obtain ⟨tally, hok, -, counts⟩ := closed rfl
  rw [hsaid] at counts
  obtain ⟨read, -, written, -⟩ := counts
  refine ⟨rfl, tally, hok, read, written.trans ?_⟩
  decide +kernel

end Feed

end FlowLines
