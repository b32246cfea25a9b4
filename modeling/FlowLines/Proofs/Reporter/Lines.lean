import FlowLines.Proofs.Reporter.Frame
import FlowLines.Proofs.Text.Control

/-! What a record comes to on a sink without a limit: the lines of its flows, in their order. -/

namespace FlowLines

open FlowLines.Flow (Entry Record)

namespace Sink

@[simp] theorem accept_nil (s : Sink) : s.accept [] = s := by
  obtain ⟨stored, room, -, -, -⟩ := s
  cases room <;> simp [accept]

theorem accept_accept (a b : List UInt8) (s : Sink) :
    (s.accept a).accept b = s.accept (a ++ b) := by
  have hstored : s.stored ++ a ++ b = s.stored ++ (a ++ b) := by
    apply Array.toList_inj.1
    simp
  cases h : s.room with
  | none => simp [accept, h, hstored]
  | some room => simp [accept, h, hstored, Nat.sub_sub]

@[simp] theorem room_accept_of_roomy {s : Sink} (h : s.room = none) (bytes : List UInt8) :
    (s.accept bytes).room = none := by
  simp [accept, h]

end Sink

def lineBytes (text : String) : List UInt8 := Text.Utf8.encode (text.toList ++ ['\n'])

theorem flatMap_lineBytes_eq_encode (texts : List String) :
    texts.flatMap lineBytes = Text.Utf8.encode (texts.flatMap fun text => text.toList ++ ['\n']) :=
  List.flatMap_assoc.symm

namespace Reporter

variable {σ : Type} (r : Reporter σ)

def shown : List Entry → (memory : σ) → List Shown
  | [], _ => []
  | flow :: flows, memory =>
    (r.showFlow flow { memory }).1 :: shown flows (r.showFlow flow { memory }).2.memory

def remember : List Entry → (memory : σ) → σ
  | [], memory => memory
  | flow :: flows, memory => remember flows (r.showFlow flow { memory }).2.memory

def texts (flows : List Entry) (memory : σ) : List String :=
  (r.shown flows memory).filterMap fun s => (r.layout.entry s).toOption

def bytes (flows : List Entry) (memory : σ) : List UInt8 :=
  (r.texts flows memory).flatMap lineBytes

theorem flows_shown (flows : List Entry) (memory : σ) :
    (r.shown flows memory).map Shown.flow = flows := by
  induction flows generalizing memory with
  | nil => rfl
  | cons flow flows ih => simp [shown, ih, showFlow]

theorem exists_reveal_showHost (host : String) (d : Desk σ) :
    ∃ s : String, (r.showHost host d).1 = String.ofList (Text.reveal s.toList) := by
  unfold showHost
  split
  · have hreveal : unknownHost = String.ofList (Text.reveal unknownHost.toList) := by
      decide +kernel
    exact ⟨unknownHost, hreveal⟩
  · dsimp only
    cases (r.resolver host d.memory).1 with
    | ok name => exact ⟨_, rfl⟩
    | error fault => exact ⟨host, rfl⟩

theorem exists_reveal_shown {flows : List Entry} {memory : σ} {s : Shown}
    (h : s ∈ r.shown flows memory) :
    (∃ t : String, s.source = String.ofList (Text.reveal t.toList)) ∧
      ∃ t : String, s.dest = String.ofList (Text.reveal t.toList) := by
  induction flows generalizing memory with
  | nil => cases h
  | cons flow flows ih =>
    rcases List.mem_cons.1 h with rfl | h
    · exact ⟨r.exists_reveal_showHost _ _, r.exists_reveal_showHost _ _⟩
    · exact ih h

/-- Names of hosts depend on the memory of the resolver and on nothing else of a desk. -/
theorem showFlow_memory (flow : Entry) (d : Desk σ) :
    (r.showFlow flow d).1 = (r.showFlow flow { memory := d.memory }).1 ∧
      (r.showFlow flow d).2.memory = (r.showFlow flow { memory := d.memory }).2.memory := by
  have hon : d.on { memory := d.memory } = d := d.on_empty d.memory
  have h := r.showFlow_on d flow { memory := d.memory }
  rw [hon] at h
  rw [h]
  exact ⟨rfl, rfl⟩

theorem texts_eq_filterMap (flows : List Entry) (memory : σ) :
    r.texts flows memory =
      ((r.shown flows memory).map r.layout.entry).filterMap Except.toOption := by
  rw [List.filterMap_map]
  rfl

theorem texts_of_laid {flows : List Entry} {memory : σ} {texts : List String}
    (h : (r.shown flows memory).map r.layout.entry = texts.map .ok) :
    r.texts flows memory = texts := by
  rw [texts_eq_filterMap, h, List.filterMap_map]
  exact List.filterMap_some

theorem texts_singleton (flow : Entry) (memory : σ) :
    r.texts [flow] memory = (r.layout.entry (r.showFlow flow { memory }).1).toOption.toList := by
  rw [texts, shown, List.filterMap_cons]
  cases (r.layout.entry (r.showFlow flow { memory }).1).toOption <;> rfl

theorem remember_append (a b : List Entry) (memory : σ) :
    r.remember (a ++ b) memory = r.remember b (r.remember a memory) := by
  induction a generalizing memory with
  | nil => rfl
  | cons flow a ih => exact ih _

theorem shown_append (a b : List Entry) (memory : σ) :
    r.shown (a ++ b) memory = r.shown a memory ++ r.shown b (r.remember a memory) := by
  induction a generalizing memory with
  | nil => rfl
  | cons flow a ih =>
    rw [List.cons_append, shown, shown, ih, List.cons_append]
    rfl

theorem texts_append (a b : List Entry) (memory : σ) :
    r.texts (a ++ b) memory = r.texts a memory ++ r.texts b (r.remember a memory) := by
  rw [texts, shown_append, List.filterMap_append]
  rfl

theorem bytes_append (a b : List Entry) (memory : σ) :
    r.bytes (a ++ b) memory = r.bytes a memory ++ r.bytes b (r.remember a memory) := by
  rw [bytes, texts_append, List.flatMap_append]
  rfl

end Reporter

/-- Between two desks without a limit flows were reported: each of them gave a line, or none. -/
structure Reporter.Wrote {σ : Type} (r : Reporter σ) (flows : List Entry) (s : Summary)
    (d d' : Desk σ) : Prop where
  lines : s.linesWritten = (r.texts flows d.memory).length
  total : s.linesWritten + s.entriesFailed = flows.length
  sink : d'.sink = d.sink.accept (r.bytes flows d.memory)
  memory : d'.memory = r.remember flows d.memory

namespace Reporter

variable {σ : Type} {r : Reporter σ}

theorem Wrote.nil (d : Desk σ) : r.Wrote [] {} d d := ⟨rfl, rfl, (Sink.accept_nil _).symm, rfl⟩

theorem Wrote.append {a b : List Entry} {s t : Summary} {d₁ d₂ d₃ : Desk σ}
    (hab : r.Wrote a s d₁ d₂) (hbc : r.Wrote b t d₂ d₃) :
    r.Wrote (a ++ b) ⟨s.linesWritten + t.linesWritten, s.entriesFailed + t.entriesFailed⟩
      d₁ d₃ where
  lines := by
    rw [hab.lines, hbc.lines, hab.memory, texts_append, List.length_append]
  total := by
    have := hab.total
    have := hbc.total
    rw [List.length_append]
    dsimp only
    omega
  sink := by rw [hbc.sink, hab.sink, hab.memory, Sink.accept_accept, bytes_append]
  memory := by rw [hbc.memory, hab.memory, remember_append]

theorem Wrote.roomy {flows : List Entry} {s : Summary} {d d' : Desk σ} (h : r.Wrote flows s d d')
    (hroom : d.sink.room = none) : d'.sink.room = none := by
  rw [h.sink]
  exact Sink.room_accept_of_roomy hroom _

variable (r)

theorem writeFlow_wrote {d : Desk σ} (h : d.sink.room = none) (index : Nat) (flow : Entry) :
    ∃ s d', r.writeFlow index flow d = (.ok s, d') ∧ r.Wrote [flow] s d d' := by
  obtain ⟨hshown, hmemory⟩ := r.showFlow_memory flow d
  have hsink := r.sink_showFlow flow d
  cases laid : r.layout.entry (r.showFlow flow d).1 with
  | error fault =>
    have htexts : r.texts [flow] d.memory = [] := by
      rw [texts_singleton, ← hshown, laid]
      rfl
    refine ⟨_, _, r.writeFlow_of_error laid index, ?_, rfl, ?_, hmemory⟩
    · rw [htexts]
      rfl
    · rw [bytes, htexts]
      simp [Desk.note, hsink]
  | ok line =>
    have htexts : r.texts [flow] d.memory = [line] := by
      rw [texts_singleton, ← hshown, laid]
      rfl
    have hroom : (r.showFlow flow d).2.sink.room = none := by rwa [hsink]
    refine ⟨_, _, r.writeFlow_of_ok h laid index, ?_, rfl, ?_, ?_⟩
    · rw [htexts]
      rfl
    · rw [Desk.writeLine_eq hroom, bytes, htexts]
      simp [hsink, lineBytes]
    · rw [Desk.writeLine_eq hroom]
      exact hmemory

variable {r}

theorem Wrote.writeFlows {start d : Desk σ} {a : List Entry} {s : Summary}
    (before : r.Wrote a s start d) (h : d.sink.room = none) (index : Nat) (b : List Entry) :
    ∃ s' d', r.writeFlows index s b d = (.ok s', d') ∧ r.Wrote (a ++ b) s' start d' := by
  -- the induction is on the flows to come; those written before are carried along
  induction b generalizing index a s d with
  | nil => exact ⟨s, d, rfl, by rwa [List.append_nil]⟩
  | cons flow b ih =>
    obtain ⟨t, d₁, hw, one⟩ := r.writeFlow_wrote h index flow
    obtain ⟨s', d', hs, all⟩ := ih (before.append one) (one.roomy h) (index + 1)
    refine ⟨s', d', ?_, ?_⟩
    · rw [Reporter.writeFlows, hw]
      exact hs
    · rwa [List.append_assoc, List.singleton_append] at all

variable (r)

theorem writeFlows_wrote {d : Desk σ} (h : d.sink.room = none) (flows : List Entry) :
    ∃ s d', r.writeFlows 0 {} flows d = (.ok s, d') ∧ r.Wrote flows s d d' :=
  (Wrote.nil d).writeFlows h 0 flows

theorem write_of_writeFlows {record : Record} {s : Summary} {d d' : Desk σ}
    (h : r.writeFlows 0 {} record.flows d = (.ok s, d')) :
    r.write record d = (d'.flush.1.map fun _ => s, d'.flush.2) := by
  rw [write, h]
  dsimp only
  rcases d'.flush with ⟨fault | u, d''⟩ <;> rfl

theorem write_of_roomy {d : Desk σ} (h : d.sink.room = none) (record : Record) :
    ∃ s d', r.Wrote record.flows s d d' ∧
      r.write record d = (d'.flush.1.map fun _ => s, d'.flush.2) := by
  obtain ⟨s, d', hs, wrote⟩ := r.writeFlows_wrote h record.flows
  exact ⟨s, d', wrote, r.write_of_writeFlows hs⟩

theorem write_of_accepts {d : Desk σ} (h : d.sink.Accepts) (record : Record) :
    ∃ s d', r.write record d = (.ok s, d') ∧
      s.linesWritten = (r.texts record.flows d.memory).length ∧
      d'.sink.stored.toList = d.sink.stored.toList ++ r.bytes record.flows d.memory := by
  obtain ⟨s, d', wrote, hw⟩ := r.write_of_roomy h.roomy record
  have haccepts : d'.sink.Accepts := by
    rw [wrote.sink]
    exact h.accept _
  rw [Desk.flush_eq haccepts] at hw
  refine ⟨s, _, hw, wrote.lines, ?_⟩
  dsimp only
  rw [wrote.sink, Sink.toList_accept]

end Reporter

end FlowLines
