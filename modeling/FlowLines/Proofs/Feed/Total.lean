import FlowLines.Layout.Line
import FlowLines.Proofs.Feed.Sent

/-! The counts of many inputs: those of the runs that came to their end, and nothing of a run that
failed, at whatever read, line or write it did. -/

namespace FlowLines.Feed

variable {σ : Type}

theorem cut_fault (parts : List (List UInt8)) {fault : DeviceFault}
    (h : fault.kind ≠ .interrupted) (later : List Delivery) :
    cut (parts.map .bytes ++ .fault fault :: later) =
      (lines (finished parts.flatten)).map .line ++ [.fault fault] := by
  have hlines := cut_bytes [finished parts.flatten]
  simp only [List.map_singleton, List.flatten_singleton, cut, cutFrom, cutBytes_finished,
    List.isEmpty_nil, if_true] at hlines
  rw [cut, cutFrom_bytes_append, ← hlines]
  simp only [cutFrom, if_neg h, List.reverse_cons]

namespace Run

variable (r : Run σ)

theorem take_fault_of_running {p : Progress σ} (h : p.status = .running) (fault : DeviceFault) :
    r.take p (.fault fault) = { p with status := .failed (.device fault) } := by
  simp only [take, h]

theorem malformed_le_takeRecord {p : Progress σ}
    (h : p.tally.recordsMalformed ≤ p.tally.recordsRead) (record : Flow.Record) :
    (r.takeRecord record p).tally.recordsMalformed ≤
      (r.takeRecord record p).tally.recordsRead := by
  unfold takeRecord
  dsimp only
  match r.reporter.write record p.desk with
  | (.ok summary, d) => exact Nat.le_succ_of_le h
  | (.error fault, d) =>
    dsimp only
    split <;> exact Nat.le_succ_of_le h

theorem malformed_le_take {p : Progress σ} (h : p.tally.recordsMalformed ≤ p.tally.recordsRead)
    (piece : Piece) :
    (r.take p piece).tally.recordsMalformed ≤ (r.take p piece).tally.recordsRead := by
  by_cases hs : p.status = .running
  · cases piece with
    | fault fault =>
      rw [r.take_fault_of_running hs]
      exact h
    | line line =>
      rw [r.take_line_of_running hs]
      match hd : decodeLine r.rules.maxLineLength line with
      | .ok none =>
        simp only [takeLine, hd]
        exact h
      | .ok (some record) =>
        rw [r.takeLine_record hd]
        exact r.malformed_le_takeRecord (p := { p with linesSeen := p.linesSeen + 1 }) h record
      | .error fault =>
        simp only [takeLine, hd]
        split
        · exact h
        · exact Nat.succ_le_succ h
  · rw [r.take_of_stopped hs]
    exact h

theorem malformed_le_takeAll {p : Progress σ}
    (h : p.tally.recordsMalformed ≤ p.tally.recordsRead) (pieces : List Piece) :
    (r.takeAll pieces p).tally.recordsMalformed ≤ (r.takeAll pieces p).tally.recordsRead := by
  induction pieces generalizing p with
  | nil => exact h
  | cons piece pieces ih => exact ih (r.malformed_le_take h piece)

end Run

structure Errand where
  {σ : Type}
  reporter : Reporter σ
  source : String
  input : List Delivery
  desk : Desk σ

namespace Errand

variable (e : Errand) (f : Feed)

def run : Except Fault Tally × Desk e.σ × Feed := f.run e.reporter e.source e.input e.desk

def after (lines : List (List UInt8)) : Progress e.σ :=
  Run.takeAll ⟨f.rules, e.reporter, e.source⟩ (lines.map .line) { desk := e.desk }

variable {e f}

theorem run_of_ok {tally : Tally} (h : (e.run f).1 = .ok tally) :
    (e.run f).2.2 = { f with total := f.total.merge tally } ∧
      tally.recordsMalformed ≤ tally.recordsRead := by
  let p := Run.takeAll ⟨f.rules, e.reporter, e.source⟩ (cut e.input) { desk := e.desk }
  have hrun : e.run f = _ := run_of_takeAll (show _ = p from rfl)
  have houtcome : p.outcome = .ok tally := by rwa [hrun] at h
  have htally : p.tally = tally := by
    unfold Progress.outcome at houtcome
    split at houtcome
    · cases houtcome
    · exact Except.ok.inj houtcome
  rw [hrun, houtcome, ← htally]
  exact ⟨rfl, Run.malformed_le_takeAll _ (Nat.le_refl 0) _⟩

theorem run_of_error {fault : Fault} (h : (e.run f).1 = .error fault) : (e.run f).2.2 = f := by
  have hrun : e.run f = _ := run_of_takeAll rfl
  rw [hrun] at h ⊢
  dsimp only at h ⊢
  rw [h]

theorem run_of_fault {parts : List (List UInt8)} {fault : DeviceFault} {later : List Delivery}
    (hinput : e.input = parts.map .bytes ++ .fault fault :: later)
    (hkind : fault.kind ≠ .interrupted) :
    let complete := lines (finished parts.flatten)
    let p := e.after f complete
    (p.status = .running →
      e.run f = (.error (.device fault), p.desk, f) ∧
      p.desk.sink.stored.toList = e.desk.sink.stored.toList ++
        e.reporter.bytes (flows (complete.map (decodeLine f.rules.maxLineLength)))
          e.desk.memory) ∧
    (p.status ≠ .running →
      e.run f = { e with input := [.bytes (finished parts.flatten)] : Errand }.run f) := by
  intro complete p
  let r : Run e.σ := ⟨f.rules, e.reporter, e.source⟩
  have htake : r.takeAll (cut e.input) { desk := e.desk } = r.take p (.fault fault) := by
    rw [hinput, cut_fault parts hkind later]
    exact r.takeAll_concat _ _ _
  constructor
  · intro running
    rw [r.take_fault_of_running running] at htake
    exact ⟨run_of_takeAll htake, (r.sent_takeAll e.desk running).stored⟩
  · intro stopped
    rw [r.take_of_stopped stopped] at htake
    have hcut : cut [.bytes (finished parts.flatten)] = complete.map .line := by
      have h := cut_bytes [finished parts.flatten]
      rwa [List.flatten_singleton] at h
    have hcomplete : r.takeAll (cut [.bytes (finished parts.flatten)]) { desk := e.desk } = p := by
      rw [hcut]
      rfl
    exact (run_of_takeAll htake).trans (run_of_takeAll hcomplete).symm

end Errand

def runEach : List Errand → Feed → List (Except Fault Tally) × Feed
  | [], f => ([], f)
  | e :: errands, f =>
    let (answer, _, f) := e.run f
    let (answers, f) := runEach errands f
    (answer :: answers, f)

/-- What is kept along several runs: the counts of those that came to their end are added, and
malformed records are among the records. -/
structure Added (f : Feed) (answers : List (Except Fault Tally)) (f' : Feed) : Prop where
  rules : f'.rules = f.rules
  counts : f'.total.counts =
    f.total.counts + ((answers.filterMap Except.toOption).map Tally.counts).sum
  malformed : f.total.recordsMalformed ≤ f.total.recordsRead →
    f'.total.recordsMalformed ≤ f'.total.recordsRead

theorem Added.refl (f : Feed) : f.Added [] f := ⟨rfl, (add_zero _).symm, id⟩

theorem Added.append {f f₁ f₂ : Feed} {as bs : List (Except Fault Tally)} (ha : f.Added as f₁)
    (hb : f₁.Added bs f₂) : f.Added (as ++ bs) f₂ where
  rules := hb.rules.trans ha.rules
  counts := by
    rw [hb.counts, ha.counts, List.filterMap_append, List.map_append, List.sum_append, add_assoc]
  malformed := hb.malformed ∘ ha.malformed

theorem Errand.added_run (e : Errand) (f : Feed) : f.Added [(e.run f).1] (e.run f).2.2 := by
  cases h : (e.run f).1 with
  | error fault =>
    rw [Errand.run_of_error h]
    exact ⟨rfl, (add_zero _).symm, id⟩
  | ok tally =>
    obtain ⟨hfeed, hmalformed⟩ := Errand.run_of_ok h
    rw [hfeed]
    refine ⟨rfl, ?_, fun hf => Nat.add_le_add hf hmalformed⟩
    rw [Tally.counts_merge]
    simp [Except.toOption]

theorem added_runEach (errands : List Errand) (f : Feed) :
    f.Added (runEach errands f).1 (runEach errands f).2 := by
  induction errands generalizing f with
  | nil => exact .refl f
  | cons e errands ih => exact (e.added_run f).append (ih _)

/-- However many inputs were fed, to whatever reporters and sinks and with whatever faults, the
total holds the counts of those runs that came to their end.  A run that fails leaves it as it was;
where a read is what fails, everything of the complete lines before it is on the sink, and nothing
else. -/
theorem total_runEach (rules : Rules) (errands : List Errand) :
    let answers := (runEach errands { rules }).1
    let f := (runEach errands { rules }).2
    f.total.counts = ((answers.filterMap Except.toOption).map Tally.counts).sum ∧
    f.total.recordsMalformed ≤ f.total.recordsRead ∧
    ∀ e : Errand,
      (∀ tally, (e.run f).1 = .ok tally →
        (e.run f).2.2.total.counts = f.total.counts + tally.counts) ∧
      (∀ fault, (e.run f).1 = .error fault → (e.run f).2.2 = f) ∧
      ∀ (parts : List (List UInt8)) fault later,
        e.input = parts.map .bytes ++ .fault fault :: later → fault.kind ≠ .interrupted →
        let complete := lines (finished parts.flatten)
        let p := e.after f complete
        (p.status = .running →
          e.run f = (.error (.device fault), p.desk, f) ∧
          p.desk.sink.stored.toList = e.desk.sink.stored.toList ++
            e.reporter.bytes (flows (complete.map (decodeLine rules.maxLineLength)))
              e.desk.memory) ∧
        (p.status ≠ .running →
          e.run f = { e with input := [.bytes (finished parts.flatten)] : Errand }.run f) := by
  intro answers f
  obtain ⟨hrules, hcounts, hmalformed⟩ := added_runEach errands { rules }
  refine ⟨hcounts.trans (zero_add _), hmalformed (Nat.le_refl 0), fun e => ⟨?_, ?_, ?_⟩⟩
  · intro tally h
    rw [(Errand.run_of_ok h).1]
    exact Tally.counts_merge _ _
  · intro fault h
    exact Errand.run_of_error h
  · intro parts fault later hinput hkind
    have hfault := Errand.run_of_fault (f := f) hinput hkind
    rwa [hrules] at hfault

theorem total_runEach_broken_line :
    let reporter : Reporter Unit := ⟨Layout.line "x", Host.Resolver.raw, none⟩
    let line := Text.Utf8.encode "\x7b\"flows\":[]\x7d".toList
    let parts := [line ++ [lineFeed], Text.Utf8.encode "\x7b\"fl".toList]
    let fault : DeviceFault := ⟨.connectionReset, "gone"⟩
    let whole : Errand := ⟨reporter, standardInput, [.bytes line], { memory := () }⟩
    let broken : Errand := { whole with input := parts.map .bytes ++ [.fault fault, .bytes line] }
    let answers := (runEach [whole] {}).1
    let f := (runEach [whole] {}).2
    fault.kind ≠ .interrupted ∧
    (broken.after f (lines (finished parts.flatten))).status = .running ∧
    (broken.run f).1 = .error (.device fault) ∧ (broken.run f).2.2 = f ∧
    f.total.counts = ((answers.filterMap Except.toOption).map Tally.counts).sum := by
  intro reporter line parts fault whole broken answers f
  have hrules : f.rules = {} := (added_runEach [whole] {}).rules
  have hkind : fault.kind ≠ .interrupted := by decide
  have accepts : ({ memory := () } : Desk Unit).sink.Accepts := Sink.accepts_default
  have running : (broken.after f (lines (finished parts.flatten))).status = .running := by
    obtain ⟨d, tally, -, hrun⟩ :=
      Run.takeAll_lines_of_lenient ⟨f.rules, reporter, standardInput⟩ (by rw [hrules]) accepts
        (lines (finished parts.flatten))
    exact congrArg Progress.status hrun
  obtain ⟨hcounts, -, hruns⟩ := total_runEach {} [whole]
  obtain ⟨-, -, hfault⟩ := hruns broken
  obtain ⟨hread, -⟩ := hfault parts fault [.bytes line] rfl hkind
  obtain ⟨hrun, -⟩ := hread running
  exact ⟨hkind, running, by rw [hrun], by rw [hrun], hcounts⟩

end FlowLines.Feed
