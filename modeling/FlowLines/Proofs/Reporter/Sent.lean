import FlowLines.Proofs.Reporter.Limit

/-! What a report leaves on any sink that took it: its first line if there is a marker, and the
lines of its records. -/

namespace FlowLines

open FlowLines.Flow (Entry Record)

namespace Reporter

variable {σ : Type} (r : Reporter σ)

def opening : List UInt8 :=
  (r.marker.map fun marker => lineBytes (r.layout.marker marker)).getD []

theorem start_opening {d : Desk σ} (accepts : d.sink.Accepts) (hasConfig : Bool) :
    ∃ d', r.start hasConfig d = (.ok (), d') ∧ d'.sink.Accepts ∧ d'.memory = d.memory ∧
      d'.sink.stored.toList = d.sink.stored.toList ++ r.opening := by
  unfold start opening
  have hnoted : (d.note (.started hasConfig)).sink.Accepts := accepts
  cases r.marker with
  | none =>
    exact ⟨_, Desk.flush_eq hnoted, ⟨accepts.roomy, accepts.flushable⟩, rfl, by simp [Desk.note]⟩
  | some marker =>
    have hwrite := Desk.writeLine_eq hnoted.roomy (r.layout.marker marker)
    have hwritten := hnoted.accept (lineBytes (r.layout.marker marker))
    dsimp only
    rw [hwrite]
    exact ⟨_, Desk.flush_eq hwritten, ⟨hwritten.roomy, hwritten.flushable⟩, rfl,
      Sink.toList_accept _ _⟩

/-- Between two desks flows were reported to their end, on whatever sink. -/
structure Sent (r : Reporter σ) (flows : List Entry) (s : Summary) (d d' : Desk σ) : Prop where
  lines : s.linesWritten = (r.texts flows d.memory).length
  total : s.linesWritten + s.entriesFailed = flows.length
  stored : d'.sink.stored.toList = d.sink.stored.toList ++ r.bytes flows d.memory
  memory : d'.memory = r.remember flows d.memory

theorem stored_of_ok {record : Record} {s : Summary} {d d' : Desk σ}
    (h : r.write record d = (.ok s, d')) :
    d'.sink.stored.toList = d.sink.stored.toList ++ r.bytes record.flows d.memory := by
  cases hroom : d.sink.room with
  | none =>
    have hstored := r.toList_write hroom record
    rwa [h] at hstored
  | some room =>
    by_cases hle : (r.bytes record.flows d.memory).length ≤ room
    · obtain ⟨d₁, hw, hstored, -⟩ := r.write_of_fits hroom hle
      obtain ⟨-, rfl⟩ := Prod.mk.inj (h.symm.trans hw)
      exact hstored
    · obtain ⟨_, _, _, _, -, -, -, hw, -⟩ := (r.within hroom record).full (Nat.lt_of_not_le hle)
      cases h.symm.trans hw

theorem sent_of_ok {record : Record} {s : Summary} {d d' : Desk σ}
    (h : r.write record d = (.ok s, d')) : r.Sent record.flows s d d' :=
  have whole := r.whole_of_ok h
  ⟨whole.lines, whole.total, r.stored_of_ok h, whole.memory⟩

variable {r}

theorem Sent.refl (d : Desk σ) : r.Sent [] {} d d := ⟨rfl, rfl, (List.append_nil _).symm, rfl⟩

theorem Sent.append {a b : List Entry} {s t : Summary} {d₁ d₂ d₃ : Desk σ}
    (hab : r.Sent a s d₁ d₂) (hbc : r.Sent b t d₂ d₃) :
    r.Sent (a ++ b) ⟨s.linesWritten + t.linesWritten, s.entriesFailed + t.entriesFailed⟩
      d₁ d₃ where
  lines := by rw [hab.lines, hbc.lines, hab.memory, texts_append, List.length_append]
  total := by
    have := hab.total
    have := hbc.total
    rw [List.length_append]
    dsimp only
    omega
  stored := by rw [hbc.stored, hab.stored, hab.memory, bytes_append, List.append_assoc]
  memory := by rw [hbc.memory, hab.memory, remember_append]

theorem Sent.unique {flows : List Entry} {s t : Summary} {d d₁ d₂ : Desk σ}
    (h₁ : r.Sent flows s d d₁) (h₂ : r.Sent flows t d d₂) :
    s = t ∧ d₁.sink.stored = d₂.sink.stored ∧ d₁.memory = d₂.memory := by
  have hlines : s.linesWritten = t.linesWritten := h₁.lines.trans h₂.lines.symm
  have hfailed : s.entriesFailed = t.entriesFailed := by
    have := h₁.total
    have := h₂.total
    omega
  refine ⟨?_, Array.toList_inj.1 (h₁.stored.trans h₂.stored.symm), h₁.memory.trans h₂.memory.symm⟩
  obtain ⟨lines, failed⟩ := s
  obtain ⟨lines', failed'⟩ := t
  obtain rfl : lines = lines' := hlines
  obtain rfl : failed = failed' := hfailed
  rfl

variable (r)

theorem write_sent {d : Desk σ} (accepts : d.sink.Accepts) (record : Record) :
    ∃ s d', r.write record d = (.ok s, d') ∧ d'.sink.Accepts ∧ r.Sent record.flows s d d' := by
  obtain ⟨s, d', hw, reported⟩ := r.write_reported accepts record
  exact ⟨s, d', hw, reported.accepts, r.sent_of_ok hw⟩

end Reporter

end FlowLines
