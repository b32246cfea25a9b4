import FlowLines.Layout.Line
import FlowLines.Proofs.Feed.Lines

/-! Interrupted reads.  A reader that is asked for a line makes such a read again and keeps what it
has of the line, so that an input is fed as if none of its reads had been interrupted. -/

namespace FlowLines

namespace Reading

def given : Reading → List UInt8
  | .bytes first rest => first :: rest
  | .fault _ => []

def isInterrupted : Reading → Bool
  | .bytes .. => false
  | .fault f => f.kind = .interrupted

end Reading

namespace Feed

def givenBy (reads : List Reading) : List UInt8 := reads.flatMap Reading.given

@[simp]
theorem givenBy_nil : givenBy [] = [] := rfl

@[simp]
theorem givenBy_cons (reading : Reading) (reads : List Reading) :
    givenBy (reading :: reads) = reading.given ++ givenBy reads := List.flatMap_cons

@[simp]
theorem givenBy_append (before after : List Reading) :
    givenBy (before ++ after) = givenBy before ++ givenBy after := List.flatMap_append

def OnlyInterrupted (reads : List Reading) : Prop :=
  ∀ fault, .fault fault ∈ reads → fault.kind = .interrupted

/-- What is left of a read is the next read. -/
def unread (bytes : List UInt8) (reads : List Reading) : List Reading :=
  match bytes with
  | [] => reads
  | first :: rest => .bytes first rest :: reads

/-- What was collected when a line was asked for, the fault that broke it off, if any, and the reads
that are left. -/
structure Answer where
  line : List UInt8
  fault : Option DeviceFault := none
  left : List Reading

/-- Collects bytes behind those of `line`, up to and with a line feed or up to the end of the reads.
An interrupted read is made again with all that was collected; any other fault is answered. -/
def readUntil (line : List UInt8) : List Reading → Answer
  | [] => { line, left := [] }
  | .bytes first rest :: reads =>
    let line := line ++ (first :: rest).takeWhile (· != lineFeed)
    match (first :: rest).dropWhile (· != lineFeed) with
    | [] => readUntil line reads
    | feed :: behind => { line := line ++ [feed], left := unread behind reads }
  | .fault f :: reads =>
    if f.kind = .interrupted then readUntil line reads else { line, fault := some f, left := reads }

/-- Neither a line feed nor a fault to be answered is among these reads. -/
structure Quiet (reads : List Reading) : Prop where
  unfinished : lineFeed ∉ givenBy reads
  interrupted : OnlyInterrupted reads

/-- What comes of asking for a line of which these bytes are there, by how the reads go on. -/
inductive ReadsUntil (line : List UInt8) : List Reading → Answer → Prop
  | ended {reads} : Quiet reads →
    ReadsUntil line reads { line := line ++ givenBy reads, left := [] }
  | line {before first rest front behind} (after) : Quiet before → lineFeed ∉ front →
    first :: rest = front ++ lineFeed :: behind →
    ReadsUntil line (before ++ .bytes first rest :: after)
      { line := line ++ givenBy before ++ front ++ [lineFeed], left := unread behind after }
  | fault {before fault} (after) : Quiet before → fault.kind ≠ .interrupted →
    ReadsUntil line (before ++ .fault fault :: after)
      { line := line ++ givenBy before, fault := some fault, left := after }

theorem quiet_nil : Quiet [] := ⟨List.not_mem_nil, by simp [OnlyInterrupted]⟩

theorem Quiet.cons_bytes {first : UInt8} {rest : List UInt8} {reads : List Reading}
    (h : Quiet reads) (unfinished : lineFeed ∉ first :: rest) :
    Quiet (.bytes first rest :: reads) := by
  refine ⟨?_, fun fault hf => h.interrupted fault (by simpa using hf)⟩
  rw [givenBy_cons, List.mem_append]
  exact not_or.2 ⟨unfinished, h.unfinished⟩

theorem Quiet.cons_fault {fault : DeviceFault} {reads : List Reading} (h : Quiet reads)
    (interrupted : fault.kind = .interrupted) : Quiet (.fault fault :: reads) := by
  refine ⟨h.unfinished, fun other hf => ?_⟩
  rcases List.mem_cons.1 hf with same | hf
  · rwa [Reading.fault.inj same]
  · exact h.interrupted other hf

theorem ReadsUntil.cons {line : List UInt8} {reading : Reading} {reads : List Reading} {a : Answer}
    (quiet : ∀ {reads}, Quiet reads → Quiet (reading :: reads))
    (h : ReadsUntil (line ++ reading.given) reads a) : ReadsUntil line (reading :: reads) a := by
  cases h with
  | ended hq =>
    have hreads : ReadsUntil line _ _ := .ended (quiet hq)
    simpa using hreads
  | line after hq hfront split =>
    have hreads : ReadsUntil line _ _ := .line after (quiet hq) hfront split
    simpa using hreads
  | fault after hq hkind =>
    have hreads : ReadsUntil line _ _ := .fault after (quiet hq) hkind
    simpa using hreads

theorem forall_bne_lineFeed {bytes : List UInt8} (h : lineFeed ∉ bytes) :
    ∀ b ∈ bytes, (b != lineFeed) = true :=
  fun _ hb => bne_iff_ne.2 (ne_of_mem_of_not_mem hb h)

theorem readUntil_unfinished {first : UInt8} {rest : List UInt8} (h : lineFeed ∉ first :: rest)
    (line : List UInt8) (reads : List Reading) :
    readUntil line (.bytes first rest :: reads) = readUntil (line ++ first :: rest) reads := by
  have hall := forall_bne_lineFeed h
  rw [readUntil, List.takeWhile_eq_self_iff.2 hall, List.dropWhile_eq_nil_iff.2 hall]

theorem readUntil_line {first : UInt8} {rest front behind : List UInt8} (h : lineFeed ∉ front)
    (split : first :: rest = front ++ lineFeed :: behind) (line : List UInt8)
    (reads : List Reading) :
    readUntil line (.bytes first rest :: reads) =
      { line := line ++ front ++ [lineFeed], left := unread behind reads } := by
  have hall := forall_bne_lineFeed h
  rw [readUntil, split, List.takeWhile_append_of_pos hall, List.dropWhile_append_of_pos hall]
  simp

theorem readsUntil_readUntil (line : List UInt8) (reads : List Reading) :
    ReadsUntil line reads (readUntil line reads) := by
  induction reads generalizing line with
  | nil =>
    have hreads : ReadsUntil line [] _ := .ended quiet_nil
    simpa [readUntil] using hreads
  | cons reading reads ih =>
    cases reading with
    | bytes first rest =>
      by_cases hmem : lineFeed ∈ first :: rest
      · obtain ⟨front, behind, split, hfront⟩ := List.eq_append_cons_of_mem hmem
        have hreads : ReadsUntil line _ _ := .line reads quiet_nil hfront split
        rw [readUntil_line hfront split]
        simpa using hreads
      · rw [readUntil_unfinished hmem]
        exact (ih _).cons fun hq => hq.cons_bytes hmem
    | fault fault =>
      by_cases hkind : fault.kind = .interrupted
      · rw [readUntil, if_pos hkind]
        refine ReadsUntil.cons (fun hq => hq.cons_fault hkind) ?_
        simpa [Reading.given] using ih line
      · have hreads : ReadsUntil line _ _ := .fault reads quiet_nil hkind
        rw [readUntil, if_neg hkind]
        simpa using hreads

@[simp]
theorem givenBy_unread (bytes : List UInt8) (reads : List Reading) :
    givenBy (unread bytes reads) = bytes ++ givenBy reads := by
  cases bytes <;> rfl

theorem mem_of_mem_unread {fault : DeviceFault} {bytes : List UInt8} {reads : List Reading}
    (h : .fault fault ∈ unread bytes reads) : .fault fault ∈ reads := by
  cases bytes with
  | nil => exact h
  | cons first rest => simpa [unread] using h

theorem length_unread_le (bytes : List UInt8) (reads : List Reading) :
    (unread bytes reads).length ≤ reads.length + 1 := by
  cases bytes <;> simp [unread]

def readsSize (reads : List Reading) : Nat := reads.length + (givenBy reads).length

/-- Every answer but the empty one at the end uses something up. -/
theorem ReadsUntil.readsSize_lt {reads : List Reading} {a : Answer} (h : ReadsUntil [] reads a)
    (going : ¬ (a.fault = none ∧ a.line = [])) : readsSize a.left < readsSize reads := by
  cases h with
  | ended _ =>
    have hpos : 0 < (givenBy reads).length := List.length_pos_iff.2 (by simpa using going)
    simp only [readsSize, givenBy_nil, List.length_nil]
    omega
  | @line before first rest front behind after _ _ split =>
    have hleft := length_unread_le behind after
    simp only [readsSize, givenBy_append, givenBy_cons, givenBy_unread, Reading.given, split,
      List.length_append, List.length_cons]
    omega
  | fault after _ _ =>
    simp only [readsSize, givenBy_append, givenBy_cons, List.length_append, List.length_cons]
    omega

@[elab_as_elim]
theorem reads_induction {P : List Reading → Prop}
    (ask : ∀ reads a, readUntil [] reads = a → ReadsUntil [] reads a →
      (¬ (a.fault = none ∧ a.line = []) → P a.left) → P reads)
    (reads : List Reading) : P reads := by
  induction hsize : readsSize reads using Nat.strongRecOn generalizing reads with
  | ind size ih =>
    have hreads := readsUntil_readUntil [] reads
    exact ask reads _ rfl hreads fun going => ih _ (hsize ▸ hreads.readsSize_lt going) _ rfl

/-- The answers to a loop that asks for one line after the other, each time with nothing collected,
until there is nothing left.  A fault ends it, unless it is an interruption. -/
def answers (reads : List Reading) : List Answer :=
  let a := readUntil [] reads
  if a.fault = none ∧ a.line = [] then []
  else a :: if a.fault.all (·.kind = .interrupted) then answers a.left else []
termination_by readsSize reads
decreasing_by exact (readsUntil_readUntil [] reads).readsSize_lt ‹_›

def dropFeed (line : List UInt8) : List UInt8 :=
  if line.getLast? = some lineFeed then line.dropLast else line

def Answer.piece? (a : Answer) : Option Piece :=
  match a.fault with
  | none => some (.line (dropFeed a.line))
  | some f => if f.kind = .interrupted then none else some (.fault f)

/-- The pieces of an input for which its reader is asked line by line. -/
def asked (reads : List Reading) : List Piece := (answers reads).filterMap Answer.piece?

theorem cutBytes_of_notMem {bytes : List UInt8} (h : lineFeed ∉ bytes) (unfinished : List UInt8)
    (done : List Piece) : cutBytes unfinished done bytes = (bytes.reverse ++ unfinished, done) := by
  induction bytes generalizing unfinished with
  | nil => rfl
  | cons b bytes ih =>
    rw [List.mem_cons, not_or] at h
    rw [cutBytes, if_neg (Ne.symm h.1), ih h.2]
    simp

def handed (reads : List Reading) : List Delivery := reads.filterMap Reading.handOn?

theorem handed_append (before after : List Reading) :
    handed (before ++ after) = handed before ++ handed after := List.filterMap_append

theorem handed_bytes (first : UInt8) (rest : List UInt8) (reads : List Reading) :
    handed (.bytes first rest :: reads) = .bytes (first :: rest) :: handed reads := rfl

theorem handed_interrupted {fault : DeviceFault} (h : fault.kind = .interrupted)
    (reads : List Reading) : handed (.fault fault :: reads) = handed reads := by
  simp [handed, Reading.handOn?, h]

theorem handed_fault {fault : DeviceFault} (h : fault.kind ≠ .interrupted)
    (reads : List Reading) : handed (.fault fault :: reads) = .fault fault :: handed reads := by
  simp [handed, Reading.handOn?, h]

theorem cutFrom_quiet {reads : List Reading} (h : Quiet reads) (unfinished : List UInt8)
    (done : List Piece) (later : List Delivery) :
    cutFrom unfinished done (handed reads ++ later) =
      cutFrom ((givenBy reads).reverse ++ unfinished) done later := by
  induction reads generalizing unfinished with
  | nil => rfl
  | cons reading reads ih =>
    have hinterrupted : OnlyInterrupted reads := fun fault hf =>
      h.interrupted fault (List.mem_cons_of_mem reading hf)
    cases reading with
    | bytes first rest =>
      obtain ⟨hfeed, hrest⟩ : lineFeed ∉ first :: rest ∧ lineFeed ∉ givenBy reads := by
        simpa [Reading.given, and_assoc] using h.unfinished
      rw [handed_bytes, List.cons_append, cutFrom, cutBytes_of_notMem hfeed]
      dsimp only
      rw [ih ⟨hrest, hinterrupted⟩]
      simp [Reading.given]
    | fault fault =>
      rw [handed_interrupted (h.interrupted fault List.mem_cons_self),
        ih ⟨h.unfinished, hinterrupted⟩]
      rfl

theorem cutFrom_unread (done : List Piece) (bytes : List UInt8) (reads : List Reading) :
    cutFrom [] done (handed (unread bytes reads)) =
      cutFrom [] done (.bytes bytes :: handed reads) := by
  cases bytes <;> rfl

theorem dropFeed_concat (line : List UInt8) : dropFeed (line ++ [lineFeed]) = line := by
  simp [dropFeed]

theorem dropFeed_of_notMem {line : List UInt8} (h : lineFeed ∉ line) : dropFeed line = line :=
  if_neg fun hlast => h (List.mem_of_getLast? hlast)

theorem asked_eq (reads : List Reading) : asked reads =
    if (readUntil [] reads).fault = none ∧ (readUntil [] reads).line = [] then []
    else (readUntil [] reads).piece?.toList ++
      if (readUntil [] reads).fault.all (·.kind = .interrupted) then
        asked (readUntil [] reads).left
      else [] := by
  rw [asked, answers]
  split
  · rfl
  · split <;> cases h : (readUntil [] reads).piece? <;> simp [h, asked]

theorem asked_nil : asked [] = [] := by rw [asked_eq, readUntil, if_pos ⟨rfl, rfl⟩]

theorem cutFrom_handed (done : List Piece) (reads : List Reading) :
    cutFrom [] done (handed reads) = done.reverse ++ asked reads := by
  -- the pieces so far are carried along, and what an answer leaves is handed on behind them
  induction reads using reads_induction generalizing done with
  | ask reads a ha hreads ih =>
    rw [asked_eq, ha]
    cases hreads with
    | ended hq =>
      have hcut := cutFrom_quiet hq [] done []
      rw [List.append_nil, List.append_nil] at hcut
      rw [hcut, cutFrom]
      by_cases hgiven : givenBy reads = []
      · simp [hgiven]
      · simp [hgiven, Answer.piece?, dropFeed_of_notMem hq.unfinished, asked_nil]
    | @line before first rest front behind after hq hfront split =>
      have hcut : cutBytes ((givenBy before).reverse ++ []) done (front ++ lineFeed :: behind) =
          cutBytes [] (.line (givenBy before ++ front) :: done) behind := by
        rw [cutBytes_append, cutBytes_of_notMem hfront, cutBytes, if_pos rfl]
        simp
      have hrest := ih (by simp) (.line (givenBy before ++ front) :: done)
      rw [cutFrom_unread, cutFrom] at hrest
      rw [handed_append, handed_bytes, cutFrom_quiet hq, split, cutFrom, hcut, hrest]
      simp only [Answer.piece?, List.nil_append, dropFeed_concat]
      simp
    | fault after hq hkind =>
      rw [handed_append, handed_fault hkind, cutFrom_quiet hq, cutFrom, if_neg hkind]
      simp [Answer.piece?, hkind]

theorem cut_handed (reads : List Reading) : cut (handed reads) = asked reads :=
  cutFrom_handed [] reads

theorem handed_filter (reads : List Reading) :
    handed (reads.filter (!·.isInterrupted)) = handed reads := by
  induction reads with
  | nil => rfl
  | cons reading reads ih =>
    cases reading with
    | bytes first rest =>
      rw [List.filter_cons_of_pos (by rfl), handed_bytes, handed_bytes, ih]
    | fault fault =>
      by_cases hkind : fault.kind = .interrupted
      · rw [List.filter_cons_of_neg (by simp [Reading.isInterrupted, hkind]), ih,
          handed_interrupted hkind]
      · rw [List.filter_cons_of_pos (by simp [Reading.isInterrupted, hkind]), handed_fault hkind,
          handed_fault hkind, ih]

theorem asked_filter (reads : List Reading) :
    asked (reads.filter (!·.isInterrupted)) = asked reads := by
  rw [← cut_handed, handed_filter, cut_handed]

theorem ReadsUntil.not_interrupted {line : List UInt8} {reads : List Reading} {a : Answer}
    (h : ReadsUntil line reads a) : ∀ fault ∈ a.fault, fault.kind ≠ .interrupted := by
  cases h with
  | ended _ => simp
  | line _ _ _ _ => simp
  | fault _ _ hkind => simpa using hkind

theorem ReadsUntil.onlyInterrupted {line : List UInt8} {reads : List Reading} {a : Answer}
    (h : ReadsUntil line reads a) (only : OnlyInterrupted reads) :
    a.fault = none ∧ OnlyInterrupted a.left := by
  cases h with
  | ended _ => exact ⟨rfl, by simp [OnlyInterrupted]⟩
  | line after _ _ _ =>
    exact ⟨rfl, fun fault hf => only fault (by simp [mem_of_mem_unread hf])⟩
  | fault after _ hkind => exact absurd (only _ (by simp)) hkind

theorem ReadsUntil.line_append {line : List UInt8} {reads : List Reading} {a : Answer}
    (h : ReadsUntil line reads a) : a.line ++ givenBy a.left = line ++ givenBy reads := by
  cases h with
  | ended _ => simp
  | @line before first rest front behind after _ _ split => simp [Reading.given, split]
  | fault after _ _ => simp [Reading.given]

theorem ReadsUntil.givenBy_eq_nil {reads : List Reading} {a : Answer} (h : ReadsUntil [] reads a)
    (ended : a.fault = none ∧ a.line = []) : givenBy reads = [] := by
  cases h with
  | ended _ => simpa using ended
  | line _ _ _ _ => simp at ended
  | fault _ _ _ => simp at ended

theorem flatMap_answers {reads : List Reading} (only : OnlyInterrupted reads) :
    (answers reads).flatMap Answer.line = givenBy reads := by
  induction reads using reads_induction with
  | ask reads a ha hreads ih =>
    rw [answers, ha]
    split
    · next ended => rw [hreads.givenBy_eq_nil ended, List.flatMap_nil]
    · next going =>
      obtain ⟨hfault, hleft⟩ := hreads.onlyInterrupted only
      rw [hfault, Option.all_none, if_pos rfl, List.flatMap_cons, ih going hleft,
        hreads.line_append, List.nil_append]

theorem exists_parts_of_onlyInterrupted {reads : List Reading} (only : OnlyInterrupted reads) :
    ∃ parts : List (List UInt8),
      handed reads = parts.map .bytes ∧ parts.flatten = givenBy reads := by
  induction reads with
  | nil => exact ⟨[], rfl, rfl⟩
  | cons reading reads ih =>
    obtain ⟨parts, hparts, hflatten⟩ := ih fun fault hf => only fault (List.mem_cons_of_mem _ hf)
    cases reading with
    | bytes first rest =>
      refine ⟨(first :: rest) :: parts, ?_, ?_⟩
      · rw [handed_bytes, hparts, List.map_cons]
      · rw [List.flatten_cons, hflatten, givenBy_cons, Reading.given]
    | fault fault =>
      refine ⟨parts, ?_, hflatten⟩
      rw [handed_interrupted (only fault List.mem_cons_self), hparts]

theorem asked_of_onlyInterrupted {reads : List Reading} (only : OnlyInterrupted reads) :
    asked reads = cut [.bytes (givenBy reads)] := by
  obtain ⟨parts, hparts, hflatten⟩ := exists_parts_of_onlyInterrupted only
  have hwhole := cut_bytes [givenBy reads]
  rw [List.map_singleton, List.flatten_singleton] at hwhole
  rw [← cut_handed, hparts, cut_bytes, hflatten, hwhole]

theorem not_interrupted_of_mem_answers (reads : List Reading) :
    ∀ a ∈ answers reads, ∀ fault ∈ a.fault, fault.kind ≠ .interrupted := by
  induction reads using reads_induction with
  | ask reads a ha hreads ih =>
    intro b hb
    rw [answers, ha] at hb
    split at hb
    · cases hb
    · next going =>
      rcases List.mem_cons.1 hb with rfl | hb
      · exact hreads.not_interrupted
      · split at hb
        · exact ih going b hb
        · cases hb

variable {σ : Type}

/-- An input whose reads are interrupted, anywhere and any number of times, is fed as if they were
not: nobody who asks for a line hears of it, and where nothing else fails every byte is in a line
that is fed. -/
theorem run_interrupted (f : Feed) (reporter : Reporter σ) (source : String)
    (reads : List Reading) (desk : Desk σ) :
    let run (reads : List Reading) := f.runPieces reporter source (asked reads) desk
    run reads = run (reads.filter (!·.isInterrupted)) ∧
    run reads = f.run reporter source (handed reads) desk ∧
    (∀ a ∈ answers reads, ∀ fault ∈ a.fault, fault.kind ≠ .interrupted) ∧
    (OnlyInterrupted reads →
      (answers reads).flatMap Answer.line = givenBy reads ∧
      run reads = f.run reporter source [.bytes (givenBy reads)] desk) := by
  intro run
  refine ⟨?_, ?_, not_interrupted_of_mem_answers reads, fun only => ?_⟩
  · simp only [run, asked_filter]
  · simp only [run, Feed.run, cut_handed]
  · refine ⟨flatMap_answers only, ?_⟩
    simp only [run, Feed.run, asked_of_onlyInterrupted only]

theorem run_interrupted_within_line :
    let reporter : Reporter Unit := ⟨Layout.line "x", Host.Resolver.raw, none⟩
    let front := Text.Utf8.encode "\x7b\"flows\":[\x7b\"source_h".toList
    let back := ["ost\":\"a\",\"source_port\":1,",
      "\"dest_host\":\"b\",\"dest_port\":2,\"bytes\":3\x7d]\x7d\n"].flatMap
        fun part => Text.Utf8.encode part.toList
    let reads := unread front (.fault ⟨.interrupted, "again"⟩ :: unread back [])
    let answer := ({} : Feed).runPieces reporter standardInput (asked reads) { memory := () }
    OnlyInterrupted reads ∧
    answer.1.toOption = some { recordsRead := 1, linesWritten := 1 } ∧
    answer.2.1.sink.stored.toList =
      Text.Utf8.encode "x source=a:1, dest=b:2, bytes=3\n".toList := by
  intro reporter front back reads answer
  have interrupted : OnlyInterrupted reads := by
    intro fault hf
    rcases List.mem_cons.1 (mem_of_mem_unread hf) with same | hf
    · rw [Reading.fault.inj same]
    · exact absurd (mem_of_mem_unread hf) List.not_mem_nil
  obtain ⟨-, -, -, hrun⟩ :=
    run_interrupted {} reporter standardInput reads { memory := () }
  have hanswer : answer = _ := (hrun interrupted).2
  have hbytes : givenBy reads = front ++ back := by simp [reads, Reading.given]
  rw [hbytes] at hanswer
  refine ⟨interrupted, ?_, ?_⟩
  · rw [hanswer]
    decide +kernel
  · rw [hanswer]
    decide +kernel

end Feed

end FlowLines
