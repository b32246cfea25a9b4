import FlowLines.Proofs.Reporter.Sent

/-! The start of a report on a sink that becomes full: either the marker fits, and all is as without
a limit, or its first bytes are there and the report does not begin. -/

namespace FlowLines

open FlowLines.Flow (Entry Record)

variable {σ : Type}

/-- The faults with which a sink answers, which are the same whatever is done with it. -/
def Sink.faults (s : Sink) : DeviceFault × Option DeviceFault := (s.fullFault, s.flushFault)

theorem Sink.faults_write (bytes : List UInt8) (s : Sink) :
    (s.write bytes).2.faults = s.faults := by
  unfold write
  cases s.room with
  | none => rfl
  | some room =>
    dsimp only
    split <;> rfl

theorem Desk.faults_writeLine (text : String) (d : Desk σ) :
    (d.writeLine text).2.sink.faults = d.sink.faults := d.sink.faults_write _

theorem Desk.faults_flush (d : Desk σ) : d.flush.2.sink.faults = d.sink.faults := by
  rw [flush_snd]
  rfl

namespace Reporter

variable (r : Reporter σ)

theorem faults_writeFlow (index : Nat) (flow : Entry) (d : Desk σ) :
    (r.writeFlow index flow d).2.sink.faults = d.sink.faults := by
  have hsink := r.sink_showFlow flow d
  cases laid : r.layout.entry (r.showFlow flow d).1 with
  | error fault =>
    rw [r.writeFlow_of_error laid, ← hsink]
    rfl
  | ok line =>
    have hw := (r.showFlow flow d).2.faults_writeLine line
    rw [hsink] at hw
    simp only [writeFlow, laid]
    generalize (r.showFlow flow d).2.writeLine line = written at hw ⊢
    rcases written with ⟨fault | u, d₁⟩ <;> exact hw

theorem faults_writeFlows (index : Nat) (s : Summary) (flows : List Entry) (d : Desk σ) :
    (r.writeFlows index s flows d).2.sink.faults = d.sink.faults := by
  induction flows generalizing index s d with
  | nil => rfl
  | cons flow flows ih =>
    have hone := r.faults_writeFlow index flow d
    rw [writeFlows]
    generalize r.writeFlow index flow d = written at hone ⊢
    rcases written with ⟨fault | t, d₁⟩
    · exact hone
    · exact (ih _ _ _).trans hone

theorem faults_write (record : Record) (d : Desk σ) :
    (r.write record d).2.sink.faults = d.sink.faults := by
  have hflows := r.faults_writeFlows 0 {} record.flows d
  rw [write]
  generalize r.writeFlows 0 {} record.flows d = written at hflows ⊢
  rcases written with ⟨fault | s, d₁⟩
  · exact hflows
  · have hflush := d₁.faults_flush.trans hflows
    dsimp only
    generalize d₁.flush = flushed at hflush ⊢
    rcases flushed with ⟨fault | u, d₂⟩ <;> exact hflush

theorem faults_start (hasConfig : Bool) (d : Desk σ) :
    (r.start hasConfig d).2.sink.faults = d.sink.faults := by
  unfold start
  cases r.marker with
  | none => exact Desk.faults_flush _
  | some marker =>
    have hw := (d.note (.started hasConfig)).faults_writeLine (r.layout.marker marker)
    dsimp only
    generalize (d.note (.started hasConfig)).writeLine (r.layout.marker marker) = written at hw ⊢
    rcases written with ⟨fault | u, d₁⟩
    · exact hw
    · exact d₁.faults_flush.trans hw

section

variable {d : Desk σ} {limit : Nat} (h : d.sink.room = none) (hasConfig : Bool)

include h

theorem start_limited (fits : d.sink.stored.size + r.opening.length ≤ limit) :
    r.start hasConfig (d.limited limit) =
      ((r.start hasConfig d).1, (r.start hasConfig d).2.limited limit) := by
  have hnoted : (d.limited limit).note (.started hasConfig) =
      (d.note (.started hasConfig)).limited limit := rfl
  unfold opening at fits
  unfold start
  rw [hnoted]
  cases hmarker : r.marker with
  | none => exact Desk.flush_limited limit _
  | some marker =>
    rw [hmarker, Option.map_some, Option.getD_some] at fits
    have hheld : d.sink.stored.size ≤ limit := Nat.le_trans (Nat.le_add_right _ _) fits
    have hwritten := Desk.writeLine_eq (d := d.note (.started hasConfig)) h
      (r.layout.marker marker)
    dsimp only
    rw [Desk.writeLine_limited (d := d.note (.started hasConfig)) h hheld, hwritten,
      if_pos (by rwa [Sink.size_accept])]
    exact Desk.flush_limited limit _

theorem start_full (held : d.sink.stored.size ≤ limit)
    (full : limit < d.sink.stored.size + r.opening.length) :
    ∃ d', r.start hasConfig (d.limited limit) = (.error d.sink.fullFault, d') ∧
      d'.sink.stored.toList = (d.sink.stored.toList ++ r.opening).take limit := by
  have hnoted : (d.limited limit).note (.started hasConfig) =
      (d.note (.started hasConfig)).limited limit := rfl
  unfold opening at full ⊢
  unfold start
  rw [hnoted]
  cases hmarker : r.marker with
  | none =>
    rw [hmarker] at full
    exact absurd held (Nat.not_le_of_lt full)
  | some marker =>
    rw [hmarker, Option.map_some, Option.getD_some] at full
    have hwritten := Desk.writeLine_eq (d := d.note (.started hasConfig)) h
      (r.layout.marker marker)
    dsimp only
    rw [Desk.writeLine_limited (d := d.note (.started hasConfig)) h held, hwritten,
      if_neg (by rw [Sink.size_accept]; exact Nat.not_le_of_lt full)]
    refine ⟨_, rfl, ?_⟩
    rw [Desk.limited, Sink.toList_limited, Sink.toList_accept]
    rfl

end

end Reporter

end FlowLines
