import FlowLines.Proofs.Reporter.Lines
import Mathlib.Data.List.Induction

/-! Reporting on a sink that becomes full.  Everything goes as without a limit up to the first line
that does not fit, and what is stored is always the beginning of what would have been. -/

namespace FlowLines

open FlowLines.Flow (Entry Record)

theorem exists_lost {α : Type} {P : List α → Prop} {l : List α} (start : P []) (lost : ¬ P l) :
    ∃ before a after, l = before ++ a :: after ∧ P before ∧ ¬ P (before ++ [a]) := by
  induction l using List.reverseRecOn with
  | nil => exact absurd start lost
  | append_singleton l a ih =>
    by_cases h : P l
    · exact ⟨l, a, [], rfl, h, lost⟩
    · obtain ⟨before, b, after, hl, hb, hlost⟩ := ih h
      exact ⟨before, b, after ++ [a], by rw [hl, List.append_assoc, List.cons_append], hb, hlost⟩

/-- What would be on a sink without a limit, if its device held that many bytes and no more. -/
def Sink.limited (limit : Nat) (s : Sink) : Sink :=
  { s with stored := s.stored.take limit, room := some (limit - s.stored.size) }

namespace Sink

variable {s : Sink} {limit : Nat}

theorem toList_limited (limit : Nat) (s : Sink) :
    (s.limited limit).stored.toList = s.stored.toList.take limit := by
  simp [limited]

theorem size_accept (bytes : List UInt8) (s : Sink) :
    (s.accept bytes).stored.size = s.stored.size + bytes.length := by
  rw [← Array.length_toList, toList_accept, List.length_append, Array.length_toList]

theorem accept_limited (limit : Nat) (bytes : List UInt8) (s : Sink) :
    (s.limited limit).accept (bytes.take (limit - s.stored.size)) =
      (s.accept bytes).limited limit := by
  have hstored : s.stored.take limit ++ bytes.take (limit - s.stored.size) =
      (s.accept bytes).stored.take limit := by
    apply Array.toList_inj.1
    simp [accept, List.take_append]
  have hroom : limit - s.stored.size - (bytes.take (limit - s.stored.size)).length =
      limit - (s.accept bytes).stored.size := by
    rw [size_accept, List.length_take]
    omega
  rw [limited, limited, ← hroom, ← hstored]
  rfl

theorem write_limited (fits : s.stored.size ≤ limit) (bytes : List UInt8) :
    (s.limited limit).write bytes =
      (if (s.accept bytes).stored.size ≤ limit then .ok () else .error s.fullFault,
        (s.accept bytes).limited limit) := by
  have hroom : (s.limited limit).room = some (limit - s.stored.size) := rfl
  rw [size_accept, ← accept_limited, write, hroom]
  dsimp only
  by_cases hle : s.stored.size + bytes.length ≤ limit
  · have hall : bytes.length ≤ limit - s.stored.size := by omega
    rw [if_pos hall, if_pos hle, List.take_of_length_le hall]
  · have hover : ¬ bytes.length ≤ limit - s.stored.size := by omega
    rw [if_neg hover, if_neg hle]
    rfl

theorem flush_limited (limit : Nat) (s : Sink) :
    (s.limited limit).flush = (s.flush.1, s.flush.2.limited limit) := by
  unfold flush limited
  dsimp only
  cases s.flushFault <;> rfl

end Sink

namespace Desk

variable {σ : Type} {d : Desk σ} {limit : Nat}

def unlimited (d : Desk σ) : Desk σ := { d with sink := { d.sink with room := none } }

def limited (limit : Nat) (d : Desk σ) : Desk σ := { d with sink := d.sink.limited limit }

theorem eq_limited {room : Nat} (h : d.sink.room = some room) :
    d = d.unlimited.limited (d.sink.stored.size + room) := by
  obtain ⟨memory, ⟨stored, _, fullFault, flushFault, flushes⟩, notes⟩ := d
  obtain rfl : _ = some room := h
  have hstored : stored.take (stored.size + room) = stored :=
    Array.extract_eq_self_of_le (Nat.le_add_right _ _)
  simp only [unlimited, limited, Sink.limited, hstored, Nat.add_sub_cancel_left]

theorem writeLine_limited (h : d.sink.room = none) (fits : d.sink.stored.size ≤ limit)
    (text : String) :
    (d.limited limit).writeLine text =
      (if (d.writeLine text).2.sink.stored.size ≤ limit then .ok () else .error d.sink.fullFault,
        (d.writeLine text).2.limited limit) := by
  have hw := Sink.write_limited fits (Text.Utf8.encode (text.toList ++ ['\n']))
  rw [writeLine_eq h, writeLine]
  simp only [limited, hw]

theorem toList_limited {d d' : Desk σ} {bytes : List UInt8}
    (h : d'.sink.stored.toList = d.sink.stored.toList ++ bytes) (room : Nat) :
    (d'.limited (d.sink.stored.size + room)).sink.stored.toList =
      d.sink.stored.toList ++ bytes.take room := by
  rw [limited, Sink.toList_limited, h, ← Array.length_toList, List.take_length_add_append]

theorem flush_fst_of_works (h : d.sink.flushFault = none) : d.flush.1 = .ok () := by
  simp [flush, Sink.flush, h]

theorem flush_fst_of_fault {fault : DeviceFault} (h : d.sink.flushFault = some fault) :
    d.flush.1 = .error fault := by
  simp [flush, Sink.flush, h]

theorem flush_snd (d : Desk σ) :
    d.flush.2 = { d with sink := { d.sink with flushes := d.sink.flushes + 1 } } := by
  cases h : d.sink.flushFault <;> simp [flush, Sink.flush, h]

theorem flush_limited (limit : Nat) (d : Desk σ) :
    (d.limited limit).flush = (d.flush.1, d.flush.2.limited limit) := by
  have hf := d.sink.flush_limited limit
  simp only [flush, limited, hf]

end Desk

namespace Reporter

variable {σ : Type} (r : Reporter σ)

theorem showHost_limited (host : String) (limit : Nat) (d : Desk σ) :
    r.showHost host (d.limited limit) =
      ((r.showHost host d).1, (r.showHost host d).2.limited limit) := by
  unfold showHost
  split
  · rfl
  · dsimp only [Desk.limited]
    cases (r.resolver host d.memory).1 <;> rfl

theorem showFlow_limited (flow : Entry) (limit : Nat) (d : Desk σ) :
    r.showFlow flow (d.limited limit) =
      ((r.showFlow flow d).1, (r.showFlow flow d).2.limited limit) := by
  simp only [showFlow, showHost_limited]

theorem writeFlow_limited {d : Desk σ} {limit : Nat} (h : d.sink.room = none)
    (fits : d.sink.stored.size ≤ limit) (index : Nat) (flow : Entry) :
    r.writeFlow index flow (d.limited limit) =
      (if (r.writeFlow index flow d).2.sink.stored.size ≤ limit then (r.writeFlow index flow d).1
        else .error d.sink.fullFault,
        (r.writeFlow index flow d).2.limited limit) := by
  have hsink := r.sink_showFlow flow d
  cases laid : r.layout.entry (r.showFlow flow d).1 with
  | error fault =>
    rw [r.writeFlow_of_error laid, r.writeFlow_of_error (by rwa [showFlow_limited]),
      showFlow_limited, if_pos (by simpa [Desk.note, hsink] using fits)]
    rfl
  | ok line =>
    have hw : ((r.showFlow flow d).2.limited limit).writeLine line = _ :=
      Desk.writeLine_limited (by rwa [hsink]) (by rwa [hsink]) line
    rw [r.writeFlow_of_ok h laid]
    simp only [writeFlow, showFlow_limited, laid, hw, hsink]
    by_cases hfits : ((r.showFlow flow d).2.writeLine line).2.sink.stored.size ≤ limit
    · rw [if_pos hfits, if_pos hfits]
    · rw [if_neg hfits, if_neg hfits]

theorem Wrote.size {r : Reporter σ} {flows : List Entry} {s : Summary} {d d' : Desk σ}
    (h : r.Wrote flows s d d') :
    d'.sink.stored.size = d.sink.stored.size + (r.bytes flows d.memory).length := by
  rw [h.sink, Sink.size_accept]

theorem sink_write {d : Desk σ} (h : d.sink.room = none) (record : Record) :
    (r.write record d).2.sink =
      { d.sink.accept (r.bytes record.flows d.memory) with flushes := d.sink.flushes + 1 } := by
  obtain ⟨s, d', wrote, hw⟩ := r.write_of_roomy h record
  rw [hw, Desk.flush_snd]
  dsimp only
  rw [wrote.sink]
  rfl

theorem toList_write {d : Desk σ} (h : d.sink.room = none) (record : Record) :
    (r.write record d).2.sink.stored.toList =
      d.sink.stored.toList ++ r.bytes record.flows d.memory := by
  rw [r.sink_write h]
  exact Sink.toList_accept _ _

theorem size_write {d : Desk σ} (h : d.sink.room = none) (record : Record) :
    (r.write record d).2.sink.stored.size =
      d.sink.stored.size + (r.bytes record.flows d.memory).length := by
  rw [r.sink_write h]
  exact Sink.size_accept _ _

theorem take_bytes {before : List Entry} {flow : Entry} {memory : σ} {room : Nat}
    (full : room ≤ (r.bytes (before ++ [flow]) memory).length) (after : List Entry) :
    (r.bytes (before ++ flow :: after) memory).take room =
      (r.bytes (before ++ [flow]) memory).take room := by
  rw [← List.singleton_append, ← List.append_assoc, bytes_append,
    List.take_append_of_le_length full]

theorem writeFlows_append (index : Nat) (s : Summary) (a b : List Entry) (d : Desk σ) :
    r.writeFlows index s (a ++ b) d =
      match r.writeFlows index s a d with
      | (.ok s, d) => r.writeFlows (index + a.length) s b d
      | (.error fault, d) => (.error fault, d) := by
  induction a generalizing index s d with
  | nil => rfl
  | cons flow a ih =>
    rw [List.cons_append, writeFlows, writeFlows]
    rcases r.writeFlow index flow d with ⟨fault | t, d₁⟩
    · rfl
    · dsimp only
      rw [ih, List.length_cons, Nat.add_right_comm, Nat.add_assoc]

section Limited

variable {d : Desk σ} {limit : Nat} (h : d.sink.room = none)

include h

theorem writeFlows_limited {flows : List Entry}
    (fits : d.sink.stored.size + (r.bytes flows d.memory).length ≤ limit) (index : Nat)
    (s : Summary) :
    r.writeFlows index s flows (d.limited limit) =
      ((r.writeFlows index s flows d).1, (r.writeFlows index s flows d).2.limited limit) := by
  induction flows generalizing index s d with
  | nil => rfl
  | cons flow flows ih =>
    obtain ⟨t, d₁, hw, wrote⟩ := r.writeFlow_wrote h index flow
    have hsize := wrote.size
    rw [← List.singleton_append, bytes_append, List.length_append, ← wrote.memory] at fits
    have hstart : d.sink.stored.size ≤ limit := by omega
    have hone := r.writeFlow_limited h hstart index flow
    rw [hw, if_pos (by dsimp only; omega)] at hone
    rw [writeFlows, writeFlows, hw, hone]
    exact ih (wrote.roomy h) (by omega) _ _

theorem writeFlows_full {before : List Entry} {flow : Entry}
    (fits : d.sink.stored.size + (r.bytes before d.memory).length ≤ limit)
    (full : limit < d.sink.stored.size + (r.bytes (before ++ [flow]) d.memory).length)
    (later : List Entry) :
    r.writeFlows 0 {} (before ++ flow :: later) (d.limited limit) =
      (.error d.sink.fullFault, (r.writeFlows 0 {} (before ++ [flow]) d).2.limited limit) := by
  obtain ⟨s, d₁, hbefore, wrote⟩ := r.writeFlows_wrote h before
  obtain ⟨t, d₂, hflow, one⟩ := r.writeFlow_wrote (wrote.roomy h) (0 + before.length) flow
  have hsize := wrote.size
  have hsize' := (wrote.append one).size
  have hfault : d₁.sink.fullFault = d.sink.fullFault := by
    rw [wrote.sink]
    rfl
  have hbefore' : d₁.sink.stored.size ≤ limit := by omega
  have hlimited := r.writeFlow_limited (wrote.roomy h) hbefore' (0 + before.length) flow
  rw [hflow, if_neg (by dsimp only; omega), hfault] at hlimited
  have hfree : r.writeFlows 0 {} (before ++ [flow]) d =
      (.ok ⟨s.linesWritten + t.linesWritten, s.entriesFailed + t.entriesFailed⟩, d₂) := by
    rw [writeFlows_append, hbefore]
    dsimp only
    rw [writeFlows, hflow]
    rfl
  rw [hfree, writeFlows_append, r.writeFlows_limited h fits, hbefore]
  dsimp only
  rw [writeFlows, hlimited]

theorem write_limited {record : Record}
    (fits : d.sink.stored.size + (r.bytes record.flows d.memory).length ≤ limit) :
    r.write record (d.limited limit) =
      ((r.write record d).1, (r.write record d).2.limited limit) := by
  obtain ⟨s, d', hs, -⟩ := r.writeFlows_wrote h record.flows
  have hlimited := r.writeFlows_limited h fits 0 {}
  rw [hs] at hlimited
  rw [r.write_of_writeFlows hs, r.write_of_writeFlows hlimited, Desk.flush_limited]

theorem write_full {before : List Entry} {flow : Entry}
    (fits : d.sink.stored.size + (r.bytes before d.memory).length ≤ limit)
    (full : limit < d.sink.stored.size + (r.bytes (before ++ [flow]) d.memory).length) :
    ∃ s d', r.Wrote (before ++ [flow]) s d d' ∧
      (r.write ⟨before ++ [flow]⟩ d).2 = d'.flush.2 ∧
      ∀ later, r.write ⟨before ++ flow :: later⟩ (d.limited limit) =
        (.error d.sink.fullFault, d'.limited limit) := by
  obtain ⟨s, d', hs, wrote⟩ := r.writeFlows_wrote h (before ++ [flow])
  refine ⟨s, d', wrote, by rw [r.write_of_writeFlows hs], fun later => ?_⟩
  rw [write, r.writeFlows_full h fits full, hs]

end Limited

theorem exists_full {d : Desk σ} {limit : Nat} {flows : List Entry}
    (fits : d.sink.stored.size ≤ limit)
    (full : limit < d.sink.stored.size + (r.bytes flows d.memory).length) :
    ∃ before flow after, flows = before ++ flow :: after ∧
      d.sink.stored.size + (r.bytes before d.memory).length ≤ limit ∧
      limit < d.sink.stored.size + (r.bytes (before ++ [flow]) d.memory).length := by
  obtain ⟨before, flow, after, hflows, hbefore, hlost⟩ := exists_lost
    (P := fun flows => d.sink.stored.size + (r.bytes flows d.memory).length ≤ limit) (l := flows)
    fits (Nat.not_le_of_lt full)
  exact ⟨before, flow, after, hflows, hbefore, Nat.lt_of_not_le hlost⟩

section Works

variable {d : Desk σ} (h : d.sink.room = none) (record : Record)

include h

theorem fst_write_of_works (works : d.sink.flushFault = none) :
    ∃ s, (r.write record d).1 = .ok s := by
  obtain ⟨s, d', wrote, hw⟩ := r.write_of_roomy h record
  have hfault : d'.sink.flushFault = none := by
    rw [wrote.sink]
    exact works
  rw [hw, Desk.flush_fst_of_works hfault]
  exact ⟨s, rfl⟩

theorem fst_write_of_fails {fault : DeviceFault} (fails : d.sink.flushFault = some fault) :
    (r.write record d).1 = .error fault := by
  obtain ⟨s, d', wrote, hw⟩ := r.write_of_roomy h record
  have hfault : d'.sink.flushFault = some fault := by
    rw [wrote.sink]
    exact fails
  rw [hw, Desk.flush_fst_of_fault hfault]
  rfl

end Works

theorem write_of_fits {d : Desk σ} {room : Nat} (h : d.sink.room = some room) {record : Record}
    (fits : (r.bytes record.flows d.memory).length ≤ room) :
    ∃ d', r.write record d = ((r.write record d.unlimited).1, d') ∧
      d'.sink.stored.toList = d.sink.stored.toList ++ r.bytes record.flows d.memory ∧
      d'.sink.flushes = d.sink.flushes + 1 ∧
      d'.memory = (r.write record d.unlimited).2.memory := by
  have hroomy : d.unlimited.sink.room = none := rfl
  have hlimited : r.write record (d.unlimited.limited (d.sink.stored.size + room)) = _ :=
    r.write_limited hroomy (Nat.add_le_add_left fits _)
  rw [← d.eq_limited h] at hlimited
  refine ⟨_, hlimited, ?_, ?_, rfl⟩
  · rw [Desk.toList_limited (d := d) (r.toList_write hroomy record) room]
    exact congrArg _ (List.take_of_length_le fits)
  · rw [Desk.limited, r.sink_write hroomy]
    rfl

/-- How a record is reported at a desk whose sink takes so many more bytes, beside how it is
reported where it takes them all. -/
structure Within (r : Reporter σ) (room : Nat) (record : Record) (d : Desk σ) : Prop where
  sent : (r.write record d.unlimited).2.sink.stored.toList =
    d.sink.stored.toList ++ r.bytes record.flows d.memory
  fits : (r.bytes record.flows d.memory).length ≤ room → d.sink.flushFault = none →
    ∃ summary d', r.write record d = (.ok summary, d') ∧
      (r.write record d.unlimited).1 = .ok summary ∧
      d'.sink.stored.toList = d.sink.stored.toList ++ r.bytes record.flows d.memory ∧
      d'.sink.flushes = d.sink.flushes + 1
  unflushed {fault : DeviceFault} : (r.bytes record.flows d.memory).length ≤ room →
    d.sink.flushFault = some fault →
    ∃ d', r.write record d = (.error fault, d') ∧
      d'.sink.stored.toList = d.sink.stored.toList ++ r.bytes record.flows d.memory ∧
      d'.sink.flushes = d.sink.flushes + 1
  full : room < (r.bytes record.flows d.memory).length →
    ∃ before flow after d', record.flows = before ++ flow :: after ∧
      (r.bytes before d.memory).length ≤ room ∧
      room < (r.bytes (before ++ [flow]) d.memory).length ∧
      r.write record d = (.error d.sink.fullFault, d') ∧
      d'.sink.stored.toList =
        d.sink.stored.toList ++ (r.bytes record.flows d.memory).take room ∧
      d'.sink.flushes = d.sink.flushes ∧
      d'.memory = (r.write ⟨before ++ [flow]⟩ d.unlimited).2.memory ∧
      d'.notes = (r.write ⟨before ++ [flow]⟩ d.unlimited).2.notes ∧
      ∀ later, r.write ⟨before ++ flow :: later⟩ d = r.write record d

theorem within {d : Desk σ} {room : Nat} (h : d.sink.room = some room) (record : Record) :
    r.Within room record d := by
  have hd := d.eq_limited h
  have hroomy : d.unlimited.sink.room = none := rfl
  refine ⟨r.toList_write hroomy record, ?fits, ?unflushed, ?full⟩
  case fits =>
    intro hle works
    obtain ⟨s, hok⟩ := r.fst_write_of_works hroomy record works
    obtain ⟨d', hw, hstored, hflushes, -⟩ := r.write_of_fits h hle
    exact ⟨s, d', hw.trans (by rw [hok]), hok, hstored, hflushes⟩
  case unflushed =>
    intro fault hle fails
    have herror := r.fst_write_of_fails hroomy record fails
    obtain ⟨d', hw, hstored, hflushes, -⟩ := r.write_of_fits h hle
    exact ⟨d', hw.trans (by rw [herror]), hstored, hflushes⟩
  case full =>
    intro hlt
    have hstart : d.unlimited.sink.stored.size ≤ d.sink.stored.size + room :=
      Nat.le_add_right _ room
    obtain ⟨before, flow, after, hflows, hbefore, hlost⟩ :=
      r.exists_full hstart (Nat.add_lt_add_left hlt _)
    obtain ⟨s, d', wrote, hflush, hsame⟩ := r.write_full hroomy hbefore hlost
    rw [← hd] at hsame
    have hbeyond : room < (r.bytes (before ++ [flow]) d.memory).length :=
      Nat.lt_of_add_lt_add_left hlost
    have hstored : d'.sink.stored.toList =
        d.sink.stored.toList ++ r.bytes (before ++ [flow]) d.memory := by
      rw [wrote.sink]
      exact Sink.toList_accept _ _
    refine ⟨before, flow, after, _, hflows, Nat.le_of_add_le_add_left hbefore, hbeyond,
      (congrArg (r.write · d) (congrArg Record.mk hflows)).trans (hsame after), ?_, ?_, ?_, ?_, ?_⟩
    · rw [Desk.toList_limited hstored, hflows, r.take_bytes (Nat.le_of_lt hbeyond) after]
    · rw [Desk.limited, wrote.sink]
      rfl
    · rw [hflush, Desk.flush_snd]
      rfl
    · rw [hflush, Desk.flush_snd]
      rfl
    · intro later
      rw [hsame later, ← hsame after, ← hflows]

theorem write_beyond {d : Desk σ} {limit : Nat} (h : d.sink.room = none) {record : Record}
    (fits : d.sink.stored.size ≤ limit)
    (beyond : limit < d.sink.stored.size + (r.bytes record.flows d.memory).length) :
    ∃ d', r.write record (d.limited limit) = (.error d.sink.fullFault, d') ∧
      d'.sink.stored.toList = (r.write record d).2.sink.stored.toList.take limit := by
  have hroom : (d.limited limit).sink.room = some (limit - d.sink.stored.size) := rfl
  have hlt : limit - d.sink.stored.size < (r.bytes record.flows d.memory).length := by omega
  obtain ⟨_, _, _, d', -, -, -, hw, hstored, -⟩ := (r.within hroom record).full hlt
  refine ⟨d', hw, hstored.trans ?_⟩
  rw [Desk.limited, Sink.toList_limited, r.toList_write h, List.take_append, Array.length_toList]

/-- On any sink there are as many bytes of a record as it has room for. -/
theorem stored_write (record : Record) (d : Desk σ) :
    (r.write record d).2.sink.stored.toList = d.sink.stored.toList ++
      d.sink.room.elim (r.bytes record.flows d.memory)
        ((r.bytes record.flows d.memory).take ·) := by
  cases hroom : d.sink.room with
  | none => exact r.toList_write hroom record
  | some room =>
    rw [Option.elim_some]
    by_cases hle : (r.bytes record.flows d.memory).length ≤ room
    · obtain ⟨d', hw, hstored, -⟩ := r.write_of_fits hroom hle
      rw [hw, hstored, List.take_of_length_le hle]
    · obtain ⟨_, _, _, d', -, -, -, hw, hstored, -⟩ :=
        (r.within hroom record).full (Nat.lt_of_not_le hle)
      rw [hw, hstored]

structure Whole (r : Reporter σ) (record : Record) (s : Summary) (d d' : Desk σ) : Prop where
  lines : s.linesWritten = (r.texts record.flows d.memory).length
  total : s.linesWritten + s.entriesFailed = record.flows.length
  memory : d'.memory = r.remember record.flows d.memory

theorem whole_of_roomy {d d' : Desk σ} (hroomy : d.sink.room = none) {record : Record} {s : Summary}
    (h : r.write record d = (.ok s, d')) : r.Whole record s d d' := by
  obtain ⟨t, d₁, wrote, hw⟩ := r.write_of_roomy hroomy record
  rw [hw, Desk.flush_snd] at h
  cases hflush : d₁.flush.1 with
  | error fault => simp [hflush, Except.map] at h
  | ok u =>
    rw [hflush] at h
    obtain ⟨hs, rfl⟩ := Prod.mk.inj h
    obtain rfl : t = s := Except.ok.inj hs
    exact ⟨wrote.lines, wrote.total, wrote.memory⟩

theorem whole_of_ok {d d' : Desk σ} {record : Record} {s : Summary}
    (h : r.write record d = (.ok s, d')) : r.Whole record s d d' := by
  cases hroom : d.sink.room with
  | none => exact r.whole_of_roomy hroom h
  | some room =>
    -- with a limit, all of it must have fit
    by_cases hle : (r.bytes record.flows d.memory).length ≤ room
    · obtain ⟨d₁, hw, -, -, hmemory⟩ := r.write_of_fits hroom hle
      rw [h] at hw
      obtain ⟨hok, rfl⟩ := Prod.mk.inj hw
      obtain ⟨lines, total, memory⟩ :=
        r.whole_of_roomy (d := d.unlimited) rfl (Prod.ext hok.symm rfl)
      exact ⟨lines, total, hmemory.trans memory⟩
    · obtain ⟨_, _, _, _, _, _, _, hw, -⟩ := (r.within hroom record).full (Nat.lt_of_not_le hle)
      rw [h] at hw
      cases hw

end Reporter

end FlowLines
