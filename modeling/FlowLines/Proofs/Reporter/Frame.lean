import FlowLines.Reporter

/-! Reporting on a sink that takes everything: nothing of what is there already is changed or
looked at, so that it adds the same to every desk. -/

namespace FlowLines

/-- A sink with room for everything, which can be flushed. -/
structure Sink.Accepts (s : Sink) : Prop where
  roomy : s.room = none
  flushable : s.flushFault = none

namespace Sink

theorem Accepts.accept {s : Sink} (h : s.Accepts) (bytes : List UInt8) : (s.accept bytes).Accepts :=
  ⟨by simp [Sink.accept, h.roomy], h.flushable⟩

theorem Accepts.write_eq {s : Sink} (h : s.Accepts) (bytes : List UInt8) :
    s.write bytes = (.ok (), s.accept bytes) := write_of_no_limit bytes h.roomy

theorem Accepts.flush_eq {s : Sink} (h : s.Accepts) :
    s.flush = (.ok (), { s with flushes := s.flushes + 1 }) := by
  simp [Sink.flush, h.flushable]

theorem accepts_default : ({} : Sink).Accepts := ⟨rfl, rfl⟩

end Sink

namespace Desk

variable {σ : Type}

/-- A desk on which work was done, put on top of what lay on another one. -/
def on (base d : Desk σ) : Desk σ where
  memory := d.memory
  sink := { base.sink with
    stored := base.sink.stored ++ d.sink.stored
    flushes := base.sink.flushes + d.sink.flushes }
  notes := base.notes ++ d.notes

@[simp] theorem memory_on (base d : Desk σ) : (base.on d).memory = d.memory := rfl

theorem accepts_on {base : Desk σ} (h : base.sink.Accepts) (d : Desk σ) :
    (base.on d).sink.Accepts := ⟨h.roomy, h.flushable⟩

theorem on_empty (base : Desk σ) (memory : σ) :
    base.on { memory } = { base with memory } := by
  simp [on]

theorem on_assoc (a b c : Desk σ) : a.on (b.on c) = (a.on b).on c := by
  simp [on, Nat.add_assoc]

theorem note_on (base d : Desk σ) (n : Note) : (base.on d).note n = base.on (d.note n) := by
  simp [on, note]

theorem writeLine_on {base d : Desk σ} (hb : base.sink.Accepts) (hd : d.sink.Accepts)
    (text : String) :
    (base.on d).writeLine text = (.ok (), base.on (d.writeLine text).2) := by
  unfold writeLine
  rw [(accepts_on hb d).write_eq, hd.write_eq]
  simp only [on, Sink.accept, hb.roomy, Option.map_none, Prod.mk.injEq, true_and]
  congr 2
  apply Array.toList_inj.1
  simp

theorem flush_on {base d : Desk σ} (hb : base.sink.Accepts) (hd : d.sink.Accepts) :
    (base.on d).flush = (.ok (), base.on d.flush.2) := by
  unfold flush
  rw [(accepts_on hb d).flush_eq, hd.flush_eq]
  simp [on, Nat.add_assoc]

theorem writeLine_eq {d : Desk σ} (h : d.sink.room = none) (text : String) :
    d.writeLine text =
      (.ok (), { d with sink := d.sink.accept (Text.Utf8.encode (text.toList ++ ['\n'])) }) := by
  rw [writeLine, Sink.write_of_no_limit _ h]

theorem flush_eq {d : Desk σ} (h : d.sink.Accepts) :
    d.flush = (.ok (), { d with sink := { d.sink with flushes := d.sink.flushes + 1 } }) := by
  rw [flush, h.flush_eq]

end Desk

namespace Reporter

variable {σ : Type} (r : Reporter σ)

theorem showHost_on (base : Desk σ) (host : String) (d : Desk σ) :
    r.showHost host (base.on d) = ((r.showHost host d).1, base.on (r.showHost host d).2) := by
  unfold showHost
  simp only [Desk.memory_on]
  split
  · rfl
  · cases (r.resolver host d.memory).1 with
    | ok name => rfl
    | error fault => exact congrArg (Prod.mk _) (Desk.note_on base { d with memory := _ } _)

theorem showFlow_on (base : Desk σ) (flow : Flow.Entry) (d : Desk σ) :
    r.showFlow flow (base.on d) = ((r.showFlow flow d).1, base.on (r.showFlow flow d).2) := by
  simp only [showFlow, showHost_on]

theorem sink_showHost (host : String) (d : Desk σ) : (r.showHost host d).2.sink = d.sink := by
  unfold showHost
  split
  · rfl
  · dsimp only
    cases (r.resolver host d.memory).1 <;> rfl

theorem sink_showFlow (flow : Flow.Entry) (d : Desk σ) :
    (r.showFlow flow d).2.sink = d.sink := by
  simp only [showFlow, sink_showHost]

theorem writeFlow_of_error {flow : Flow.Entry} {d : Desk σ} {fault : Layout.Fault}
    (h : r.layout.entry (r.showFlow flow d).1 = .error fault) (index : Nat) :
    r.writeFlow index flow d =
      (.ok { entriesFailed := 1 }, (r.showFlow flow d).2.note (.skippedEntry index fault)) := by
  simp [writeFlow, h]

theorem writeFlow_of_ok {flow : Flow.Entry} {d : Desk σ} {line : String}
    (hd : d.sink.room = none) (h : r.layout.entry (r.showFlow flow d).1 = .ok line) (index : Nat) :
    r.writeFlow index flow d =
      (.ok { linesWritten := 1 }, ((r.showFlow flow d).2.writeLine line).2) := by
  have hs : (r.showFlow flow d).2.sink.room = none := by rwa [sink_showFlow]
  simp [writeFlow, h, Desk.writeLine_eq hs]

theorem writeFlow_on {base d : Desk σ} (hb : base.sink.Accepts) (hd : d.sink.Accepts)
    (index : Nat) (flow : Flow.Entry) :
    r.writeFlow index flow (base.on d) =
      ((r.writeFlow index flow d).1, base.on (r.writeFlow index flow d).2) := by
  have hs : (r.showFlow flow d).2.sink.Accepts := by rwa [sink_showFlow]
  have shown : (r.showFlow flow (base.on d)).1 = (r.showFlow flow d).1 := by rw [showFlow_on]
  cases h : r.layout.entry (r.showFlow flow d).1 with
  | error fault =>
    rw [r.writeFlow_of_error h, r.writeFlow_of_error (shown ▸ h), showFlow_on, Desk.note_on]
  | ok line =>
    rw [r.writeFlow_of_ok hd.roomy h, r.writeFlow_of_ok (Desk.accepts_on hb d).roomy (shown ▸ h),
      showFlow_on, Desk.writeLine_on hb hs]

end Reporter

def Note.isSkippedLine : Note → Bool
  | .skippedLine .. => true
  | _ => false

def Note.isWarning (n : Note) : Bool := n.level = .warn

/-- Between two desks some flows were reported: each of them gave a line or a warning, and what
was noted before is still there. -/
structure Desk.Reported {σ : Type} (flows : Nat) (summary : Summary) (before after : Desk σ) :
    Prop where
  accepts : after.sink.Accepts
  total : summary.linesWritten + summary.entriesFailed = flows
  noted : ∃ added, after.notes.toList = before.notes.toList ++ added ∧
    added.countP Note.isSkippedLine = 0 ∧ added.countP Note.isWarning = summary.entriesFailed

namespace Desk.Reported

variable {σ : Type} {a b c : Desk σ} {m n : Nat} {s t : Summary}

theorem refl (h : a.sink.Accepts) : Reported 0 {} a a := ⟨h, rfl, [], by simp, rfl, rfl⟩

theorem trans (hab : Reported m s a b) (hbc : Reported n t b c) :
    Reported (m + n)
      ⟨s.linesWritten + t.linesWritten, s.entriesFailed + t.entriesFailed⟩ a c := by
  obtain ⟨xs, hxs, hx, hx'⟩ := hab.noted
  obtain ⟨ys, hys, hy, hy'⟩ := hbc.noted
  refine ⟨hbc.accepts, ?_, xs ++ ys, ?_, ?_, ?_⟩
  · have := hab.total
    have := hbc.total
    dsimp only
    omega
  · rw [hys, hxs, List.append_assoc]
  · rw [List.countP_append, hx, hy]
  · rw [List.countP_append, hx', hy']

theorem note (h : Reported m s a b) (w : Note) (hw : w.isSkippedLine = false) :
    Reported (m + if w.isWarning then 1 else 0)
      { s with entriesFailed := s.entriesFailed + if w.isWarning then 1 else 0 } a (b.note w) := by
  obtain ⟨xs, hxs, hx, hx'⟩ := h.noted
  refine ⟨h.accepts, ?_, xs ++ [w], ?_, ?_, ?_⟩
  · have := h.total
    dsimp only
    omega
  · simp [Desk.note, hxs]
  · simp [List.countP_append, hx, hw]
  · simp [List.countP_append, hx', List.countP_singleton]

theorem writeLine (h : Reported m s a b) (line : String) :
    Reported (m + 1) { s with linesWritten := s.linesWritten + 1 } a (b.writeLine line).2 := by
  rw [Desk.writeLine_eq h.accepts.roomy]
  refine ⟨h.accepts.accept _, ?_, h.noted⟩
  have := h.total
  dsimp only
  omega

theorem flush (h : Reported m s a b) : Reported m s a b.flush.2 := by
  rw [Desk.flush_eq h.accepts]
  exact ⟨⟨h.accepts.roomy, h.accepts.flushable⟩, h.total, h.noted⟩

end Desk.Reported

namespace Reporter

variable {σ : Type} (r : Reporter σ)

theorem reported_showHost {d : Desk σ} (h : d.sink.Accepts) (host : String) :
    d.Reported 0 {} (r.showHost host d).2 := by
  unfold showHost
  split
  · exact .refl h
  · dsimp only
    cases (r.resolver host d.memory).1 with
    | ok name => exact ⟨h, rfl, [], by simp, rfl, rfl⟩
    | error fault => exact ⟨h, rfl, [.unresolved host fault], by simp [Desk.note], rfl, rfl⟩

theorem reported_showFlow {d : Desk σ} (h : d.sink.Accepts) (flow : Flow.Entry) :
    d.Reported 0 {} (r.showFlow flow d).2 :=
  have source := r.reported_showHost h flow.sourceHost
  source.trans (r.reported_showHost source.accepts flow.destHost)

theorem writeFlow_reported {d : Desk σ} (h : d.sink.Accepts) (index : Nat) (flow : Flow.Entry) :
    ∃ s d', r.writeFlow index flow d = (.ok s, d') ∧ d.Reported 1 s d' := by
  have shown := r.reported_showFlow h flow
  cases laid : r.layout.entry (r.showFlow flow d).1 with
  | error fault =>
    exact ⟨_, _, r.writeFlow_of_error laid index, shown.note (.skippedEntry index fault) rfl⟩
  | ok line => exact ⟨_, _, r.writeFlow_of_ok h.roomy laid index, shown.writeLine line⟩

theorem writeFlows_reported {start d : Desk σ} {n : Nat} {s : Summary}
    (before : start.Reported n s d) (index : Nat) (flows : List Flow.Entry) :
    ∃ s' d', r.writeFlows index s flows d = (.ok s', d') ∧
      start.Reported (n + flows.length) s' d' := by
  -- on the flows to come; what was reported before them is carried along
  induction flows generalizing index n s d with
  | nil => exact ⟨s, d, rfl, before⟩
  | cons flow flows ih =>
    obtain ⟨t, d₁, hw, one⟩ := r.writeFlow_reported before.accepts index flow
    obtain ⟨s', d', hs, all⟩ := ih (before.trans one) (index + 1)
    refine ⟨s', d', ?_, ?_⟩
    · rw [writeFlows, hw]
      exact hs
    · rwa [List.length_cons, Nat.add_comm flows.length, ← Nat.add_assoc]

theorem write_reported {d : Desk σ} (h : d.sink.Accepts) (record : Flow.Record) :
    ∃ s d', r.write record d = (.ok s, d') ∧ d.Reported record.flows.length s d' := by
  obtain ⟨s, d', hs, all⟩ := r.writeFlows_reported (.refl h) 0 record.flows
  rw [Nat.zero_add] at all
  refine ⟨s, d'.flush.2, ?_, all.flush⟩
  rw [write, hs]
  dsimp only
  rw [Desk.flush_eq all.accepts]

theorem writeFlows_on {base d : Desk σ} (hb : base.sink.Accepts) (hd : d.sink.Accepts)
    (index : Nat) (s : Summary) (flows : List Flow.Entry) :
    r.writeFlows index s flows (base.on d) =
      ((r.writeFlows index s flows d).1, base.on (r.writeFlows index s flows d).2) := by
  induction flows generalizing index s d with
  | nil => rfl
  | cons flow flows ih =>
    obtain ⟨t, d₁, hw, one⟩ := r.writeFlow_reported hd index flow
    rw [writeFlows, writeFlows, r.writeFlow_on hb hd, hw]
    exact ih one.accepts _ _

/-- What is reported does not depend on what was written or noted before. -/
theorem write_on {base d : Desk σ} (hb : base.sink.Accepts) (hd : d.sink.Accepts)
    (record : Flow.Record) :
    r.write record (base.on d) = ((r.write record d).1, base.on (r.write record d).2) := by
  obtain ⟨s, d', hs, all⟩ := r.writeFlows_reported (.refl hd) 0 record.flows
  rw [write, write, r.writeFlows_on hb hd, hs]
  dsimp only
  rw [Desk.flush_on hb all.accepts, Desk.flush_eq all.accepts]

end Reporter

end FlowLines
