import FlowLines.Proofs.CommandLine.Job
import FlowLines.Proofs.Reporter.Start

/-! Runs whose output is closed after so many bytes.  One that is closed within a record ends well;
one that is closed within the marker does not even begin. -/

namespace FlowLines

open FlowLines.Flow (Record)

variable {σ : Type}

/-- A pipe that takes so many more bytes before it is closed. -/
structure Sink.Closes (room : Nat) (s : Sink) : Prop where
  roomy : s.room = some room
  closed : s.fullFault.kind = .brokenPipe
  flushable : s.flushFault = none

namespace Feed.Run

variable (r : Run σ)

theorem faults_takeAll (pieces : List Piece) (p : Progress σ) :
    (r.takeAll pieces p).desk.sink.faults = p.desk.sink.faults := by
  induction pieces generalizing p with
  | nil => rfl
  | cons piece pieces ih =>
    have hone : (r.take p piece).desk.sink.faults = p.desk.sink.faults := by
      rcases r.sink_take p piece with hsink | ⟨line, record, rfl, hs, hd⟩
      · rw [hsink]
      · rw [r.take_line_of_running hs, r.takeLine_record hd, sink_takeRecord,
          r.reporter.faults_write]
    rw [takeAll_cons, ih, hone]

variable {r}

theorem Refused.outcome {desk : Desk σ} {lines : List (List UInt8)} {line : List UInt8}
    {record : Record} {fault : DeviceFault} (h : r.Refused desk lines line record fault)
    (closed : fault.kind = .brokenPipe) (after : List Piece) :
    ∃ tally, (r.takeAll (lines.map .line ++ .line line :: after) { desk }).outcome = .ok tally := by
  let p := r.takeAll (lines.map .line) { desk }
  have houtcome := (r.takeRecord_of_error (p := { p with linesSeen := p.linesSeen + 1 })
    h.refused).2
  rw [if_pos closed] at houtcome
  exact ⟨_, (congrArg Progress.outcome (h.takeAll after)).trans houtcome⟩

end Feed.Run

theorem Desk.limited_unlimited {d : Desk σ} {room : Nat} (h : d.sink.room = some room) :
    d.unlimited.limited (d.unlimited.sink.stored.size + room) = d := (d.eq_limited h).symm

def Desk.unflushable (fault : DeviceFault) (d : Desk σ) : Desk σ :=
  { d with sink := { d.sink with flushFault := some fault } }

namespace CommandLine.Job

open FlowLines.Feed (Progress Run)

/-- A stage at which nothing more can be flushed: a buffer before the pipe holds what was refused,
and the pipe refuses it again. -/
def Stage.unflushable (fault : DeviceFault) : Stage σ → Stage σ
  | .going p => .going { p with desk := p.desk.unflushable fault }
  | stage => stage

def reached (j : Job) (r : Reporter σ) (input : List Delivery) (desk : Desk σ) : Stage σ :=
  j.feed r (Feed.cut input) (j.start r desk)

section

variable {p : Progress σ} {tally : Tally}

theorem finish_limited (limit : Nat) :
    (finish (.going (p.limited limit))).1 = (finish (.going p)).1 := by
  cases houtcome : p.outcome with
  | error fault =>
    rw [finish_of_error houtcome, finish_of_error (p := p.limited limit) houtcome]
  | ok tally =>
    have hflush : (p.limited limit).desk.flush = _ := p.desk.flush_limited limit
    rw [fst_finish houtcome, fst_finish (p := p.limited limit) houtcome, hflush]

theorem finish_unflushable (h : p.outcome = .ok tally) (fault : DeviceFault) :
    (finish ((Stage.going p).unflushable fault)).1 = .error (.finish fault) := by
  have hflush : (p.desk.unflushable fault).flush.1 = .error fault := Desk.flush_fst_of_fault rfl
  rw [Stage.unflushable, fst_finish (p := { p with desk := p.desk.unflushable fault }) h, hflush]
  rfl

end

/-- A run on a pipe that is closed after so many bytes, beside the run on one that stays open and
gets these bytes behind the marker. -/
structure Closing (j : Job) (r : Reporter σ) (input : List Delivery) (room : Nat) (desk : Desk σ)
    (bytes : List UInt8) : Prop where
  sent : (j.run r input desk.unlimited).2.sink.stored.toList =
    desk.sink.stored.toList ++ (r.opening ++ bytes)
  stored : (j.run r input desk).2.sink.stored.toList =
    desk.sink.stored.toList ++ (r.opening ++ bytes).take room
  marker : room < r.opening.length →
    (j.run r input desk).1 = .error (.start desk.sink.fullFault)
  report : r.opening.length ≤ room → room < (r.opening ++ bytes).length →
    (∃ tally, (j.run r input desk).1 = .ok tally) ∧
    ∀ fault, (finish ((j.reached r input desk).unflushable fault)).1 = .error (.finish fault)
  fits : (r.opening ++ bytes).length ≤ room →
    (j.run r input desk).1 = (j.run r input desk.unlimited).1

structure Open (j : Job) (r : Reporter σ) (input : List Delivery) (desk d₀ : Desk σ)
    (p : Progress σ) (bytes : List UInt8) : Prop where
  started : r.start j.hasConfig desk.unlimited = (.ok (), d₀)
  accepts : d₀.sink.Accepts
  opened : d₀.sink.stored.toList = desk.sink.stored.toList ++ r.opening
  taken : Run.takeAll ⟨j.rules, r, j.source⟩ (Feed.cut input) { desk := d₀ } = p
  sent : p.desk.sink.stored.toList = desk.sink.stored.toList ++ (r.opening ++ bytes)

theorem exists_open (j : Job) (r : Reporter σ) (input : List Delivery) {desk : Desk σ}
    (flushable : desk.sink.flushFault = none) : ∃ d₀ p bytes, j.Open r input desk d₀ p bytes := by
  obtain ⟨d₀, started, accepts, -, opened⟩ :=
    r.start_opening (d := desk.unlimited) ⟨rfl, flushable⟩ j.hasConfig
  obtain ⟨bytes, hbytes⟩ := (Run.grows_takeAll ⟨j.rules, r, j.source⟩ (p := { desk := d₀ })
    accepts.roomy (Feed.cut input)).stored
  refine ⟨d₀, _, bytes, started, accepts, opened, rfl, ?_⟩
  rw [← hbytes, ← List.append_assoc]
  exact congrArg (· ++ bytes) opened

namespace Open

variable {j : Job} {r : Reporter σ} {input : List Delivery} {desk d₀ : Desk σ} {p : Progress σ}
  {bytes : List UInt8} {room : Nat}

theorem run (h : j.Open r input desk d₀ p bytes) :
    j.run r input desk.unlimited = finish (.going p) := by
  rw [j.run_of_start h.started, h.taken]

theorem stored (h : j.Open r input desk d₀ p bytes) :
    (j.run r input desk.unlimited).2.sink.stored.toList =
      desk.sink.stored.toList ++ (r.opening ++ bytes) := by
  rw [h.run, stored_finish, h.sent]

theorem size (h : j.Open r input desk d₀ p bytes) :
    p.desk.sink.stored.size = desk.sink.stored.size + (r.opening ++ bytes).length := by
  rw [← Array.length_toList, h.sent, List.length_append, Array.length_toList]

theorem closing_of_marker (h : j.Open r input desk d₀ p bytes) (closes : desk.sink.Closes room)
    (full : room < r.opening.length) : j.Closing r input room desk bytes := by
  obtain ⟨d', hstart, hstored⟩ := r.start_full (d := desk.unlimited) rfl j.hasConfig
    (Nat.le_add_right _ _) (Nat.add_lt_add_left full _)
  rw [Desk.limited_unlimited closes.roomy] at hstart
  have hrun : j.run r input desk = (.error (.start desk.sink.fullFault), d') := by
    rw [Job.run, start, hstart]
    rfl
  have hbeyond : room < (r.opening ++ bytes).length := by
    rw [List.length_append]
    exact Nat.lt_add_right _ full
  refine ⟨h.stored, ?_, fun _ => by rw [hrun], fun hle => absurd full (Nat.not_lt_of_le hle),
    fun hle => absurd hbeyond (Nat.not_lt_of_le hle)⟩
  rw [hrun, hstored, List.take_append_of_le_length (Nat.le_of_lt full), ← Array.length_toList,
    List.take_length_add_append]
  rfl

theorem start_of_fits (h : j.Open r input desk d₀ p bytes) (closes : desk.sink.Closes room)
    (opened : r.opening.length ≤ room) :
    r.start j.hasConfig desk = (.ok (), d₀.limited (desk.sink.stored.size + room)) := by
  have hlimited := r.start_limited (d := desk.unlimited) rfl j.hasConfig
    (Nat.add_le_add_left opened desk.unlimited.sink.stored.size)
  rwa [Desk.limited_unlimited closes.roomy, h.started] at hlimited

theorem closing_of_fits (h : j.Open r input desk d₀ p bytes) (closes : desk.sink.Closes room)
    (fits : (r.opening ++ bytes).length ≤ room) : j.Closing r input room desk bytes := by
  have hopened : r.opening.length ≤ room := by
    rw [List.length_append] at fits
    exact Nat.le_of_add_right_le fits
  have hsize : p.desk.sink.stored.size ≤ desk.sink.stored.size + room := by
    rw [h.size]
    exact Nat.add_le_add_left fits _
  have htaken : Run.takeAll ⟨j.rules, r, j.source⟩ (Feed.cut input)
      { desk := d₀.limited (desk.sink.stored.size + room) } =
        p.limited (desk.sink.stored.size + room) := by
    rw [← h.taken] at hsize ⊢
    exact Run.takeAll_limited _ (p := { desk := d₀ }) h.accepts.roomy (Feed.cut input) hsize
  have hrun : j.run r input desk = finish (.going (p.limited (desk.sink.stored.size + room))) := by
    rw [j.run_of_start (h.start_of_fits closes hopened), htaken]
  refine ⟨h.stored, ?_, fun hlt => absurd hopened (Nat.not_le_of_lt hlt),
    fun _ hlt => absurd fits (Nat.not_le_of_lt hlt), fun _ => ?_⟩
  · rw [hrun, stored_finish]
    exact Desk.toList_limited h.sent room
  · rw [hrun, finish_limited, h.run]

theorem closing_of_beyond (h : j.Open r input desk d₀ p bytes) (closes : desk.sink.Closes room)
    (opened : r.opening.length ≤ room) (beyond : room < (r.opening ++ bytes).length) :
    j.Closing r input room desk bytes := by
  let run : Run σ := ⟨j.rules, r, j.source⟩
  let limit := desk.sink.stored.size + room
  have hfaults : d₀.sink.faults = desk.sink.faults := by
    have hstart := r.faults_start j.hasConfig desk.unlimited
    rwa [h.started] at hstart
  have hclosed : d₀.sink.fullFault.kind = .brokenPipe :=
    (congrArg (·.1.kind) hfaults).trans closes.closed
  have hheld : d₀.sink.stored.size ≤ limit := by
    rw [← Array.length_toList, h.opened, List.length_append, Array.length_toList]
    exact Nat.add_le_add_left opened _
  have hsize : limit < (run.takeAll (Feed.cut input) { desk := d₀ }).desk.sink.stored.size := by
    rw [h.taken, h.size]
    exact Nat.add_lt_add_left beyond _
  have hstart := h.start_of_fits closes opened
  -- the run goes on up to the record of which a byte is refused
  obtain ⟨lines, line, record, after, hcut, refused, hstored⟩ :=
    run.exists_refused h.accepts.roomy hheld hsize
  obtain ⟨tally, htally⟩ := refused.outcome hclosed after
  rw [← hcut] at htally
  have hflush := run.faults_takeAll (Feed.cut input) { desk := d₀.limited limit }
  generalize hq : run.takeAll (Feed.cut input) { desk := d₀.limited limit } = q
    at htally hstored hflush
  have hrun : j.run r input desk = finish (.going q) := by rw [j.run_of_start hstart, hq]
  have hreached : j.reached r input desk = .going q := by
    rw [reached, start, hstart, ← hq]
    rfl
  refine ⟨h.stored, ?_, fun hlt => absurd opened (Nat.not_le_of_lt hlt), fun _ _ => ⟨?_, ?_⟩,
    fun hle => absurd beyond (Nat.not_lt_of_le hle)⟩
  · rw [hrun, stored_finish, hstored, h.taken, h.sent]
    simp only [limit, ← Array.length_toList, List.take_length_add_append]
  · rw [hrun]
    exact ⟨tally, finish_of_ok htally
      ((congrArg Prod.snd (hflush.trans hfaults)).trans closes.flushable)⟩
  · rw [hreached]
    exact finish_unflushable htally

end Open

/-- A pipe that is closed before all of the output went through makes a run fail exactly if that is
within the marker.  Behind the marker the run ends well, with what was stored until then, unless the
last flush is refused as well. -/
theorem run_closing (j : Job) (service : Host.NameService σ) (input : List Delivery)
    {desk : Desk (Host.NameCache × σ)} {room : Nat} (closes : desk.sink.Closes room) :
    ∃ bytes, j.Closing (j.reporter service) input room desk bytes := by
  obtain ⟨d₀, p, bytes, h⟩ := j.exists_open (j.reporter service) input closes.flushable
  refine ⟨bytes, ?_⟩
  by_cases hmarker : room < (j.reporter service).opening.length
  · exact h.closing_of_marker closes hmarker
  by_cases hfits : ((j.reporter service).opening ++ bytes).length ≤ room
  · exact h.closing_of_fits closes hfits
  · exact h.closing_of_beyond closes (Nat.le_of_not_lt hmarker) (Nat.lt_of_not_le hfits)

theorem run_closing_within_line :
    let service : Host.NameService Unit := fun _ s => (.failed ⟨.other, "none"⟩, s)
    let job : Job := {}
    let line := ["\x7b\"flows\":[\x7b\"source_host\":\"a\",\"source_port\":1,",
      "\"dest_host\":\"b\",\"dest_port\":2,\"bytes\":3\x7d]\x7d"].flatMap
        fun part => Text.Utf8.encode part.toList
    let desk : Desk (Host.NameCache × Unit) :=
      { memory := ({}, ()), sink := { room := some 25, fullFault := ⟨.brokenPipe, "gone"⟩ } }
    let ended := job.run (job.reporter service) [.bytes line] desk
    desk.sink.Closes 25 ∧ (∃ tally, ended.1 = .ok tally) ∧
      ended.2.sink.stored.toList = Text.Utf8.encode "This is the config\nJS Pro".toList := by
  intro service job line desk ended
  have closes : desk.sink.Closes 25 := ⟨rfl, rfl, rfl⟩
  obtain ⟨bytes, closing⟩ := run_closing job service [.bytes line] closes
  have hsent : (job.run (job.reporter service) [.bytes line] desk.unlimited).2.sink.stored.toList =
      Text.Utf8.encode
        "This is the config\nJS Proof! source=a:1, dest=b:2, bytes=3\n".toList := by
    decide +kernel
  have hempty : desk.sink.stored.toList = [] := rfl
  have hbytes := closing.sent
  rw [hsent, hempty, List.nil_append] at hbytes
  refine ⟨closes, (closing.report (by decide +kernel) ?_).1, ?_⟩
  · rw [← hbytes]
    decide +kernel
  · rw [closing.stored, ← hbytes]
    decide +kernel

theorem run_closed_within_marker :
    ¬ ∀ (j : Job) (service : Host.NameService Unit) (input : List Delivery)
        (desk : Desk (Host.NameCache × Unit)) (room : Nat), desk.sink.Closes room →
      endStatus (j.run (j.reporter service) input desk).1 = successStatus := by
  intro quiet
  let service : Host.NameService Unit := fun _ s => (.failed ⟨.other, "none"⟩, s)
  let desk : Desk (Host.NameCache × Unit) :=
    { memory := ({}, ()), sink := { room := some 5, fullFault := ⟨.brokenPipe, "gone"⟩ } }
  have hstatus := quiet {} service [] desk 5 ⟨rfl, rfl, rfl⟩
  exact absurd hstatus (by decide +kernel)

end CommandLine.Job

end FlowLines
