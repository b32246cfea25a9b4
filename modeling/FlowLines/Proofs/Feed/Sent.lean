import FlowLines.Proofs.Feed.FailFast
import FlowLines.Proofs.Feed.Interrupted
import FlowLines.Proofs.Reporter.Sent
import Mathlib.Algebra.Group.Prod

/-! What a run that still goes on has sent, and the counts of several runs. -/

namespace FlowLines

open FlowLines.Flow (Entry Record)

/-- Records read, malformed records, lines written and entries that failed. -/
def Tally.counts (t : Tally) : Nat × Nat × Nat × Nat :=
  (t.recordsRead, t.recordsMalformed, t.linesWritten, t.entriesFailed)

theorem Tally.counts_merge (t u : Tally) : (t.merge u).counts = t.counts + u.counts := rfl

namespace Feed

variable {σ : Type}

theorem flows_append (a b : List Saying) : flows (a ++ b) = flows a ++ flows b := by
  rw [flows, records_append, List.flatMap_append]
  rfl

theorem lines_append {a b : List UInt8} (h : EndsLine a) : lines (a ++ b) = lines a ++ lines b := by
  induction a using lines_induction with
  | unfinished a hmem =>
    cases a using List.reverseRecOn with
    | nil => rfl
    | append_singleton a x =>
      have hx : x = lineFeed := h x (by simp)
      exact absurd (by simp [hx]) hmem
  | line first rest hfirst ih =>
    have hrest : EndsLine rest := by
      rwa [List.append_cons, endsLine_append (by simp [EndsLine])] at h
    rw [List.append_assoc, List.cons_append, lines_append_cons hfirst, lines_append_cons hfirst,
      ih hrest, List.cons_append]

namespace Run

/-- After lines that said this a run still goes on, and their flows are on the sink. -/
structure Sent (r : Run σ) (start : Desk σ) (said : List Saying) (p : Progress σ) : Prop extends
    r.Accounted start.memory said p where
  stored : p.desk.sink.stored.toList =
    start.sink.stored.toList ++ r.reporter.bytes (flows said) start.memory

variable {r : Run σ} {start : Desk σ} {said : List Saying} {p : Progress σ}

theorem sent_start (r : Run σ) (desk : Desk σ) : r.Sent desk [] { desk } :=
  ⟨r.accounted_start desk, (List.append_nil _).symm⟩

theorem Sent.takeLine (h : r.Sent start said p) {line : List UInt8}
    (running : (r.takeLine line p).status = .running) :
    r.Sent start (said ++ [decodeLine r.rules.maxLineLength line]) (r.takeLine line p) := by
  refine ⟨h.toAccounted.takeLine running, ?_⟩
  match hd : decodeLine r.rules.maxLineLength line with
  | .ok none =>
    simp only [Run.takeLine, hd, flows, records_concat_blank]
    exact h.stored
  | .ok (some record) =>
    rw [r.takeLine_record hd] at running ⊢
    obtain ⟨s, d, hw, htake⟩ := r.takeRecord_of_running running
    have sent := r.reporter.sent_of_ok hw
    dsimp only at sent
    rw [htake, flows_append, sent.stored, h.stored, h.memory, Reporter.bytes_append,
      List.append_assoc]
    simp [flows, records, Except.toOption]
  | .error fault =>
    simp only [Run.takeLine, hd] at running ⊢
    split at running
    · cases running
    · next skip =>
      rw [if_neg skip]
      simp only [flows, records_concat_fault]
      exact h.stored

theorem sent_takeAll (r : Run σ) (desk : Desk σ) {lines : List (List UInt8)}
    (running : (r.takeAll (lines.map .line) { desk }).status = .running) :
    r.Sent desk (lines.map (decodeLine r.rules.maxLineLength))
      (r.takeAll (lines.map .line) { desk }) :=
  takeAll_of_running (fun h => h.takeLine) (r.sent_start desk) running

theorem failingFast_self (r : Run σ) : r.failingFast r.rules.failFast = r := rfl

theorem takeAll_of_clean (r : Run σ) {desk : Desk σ} (accepts : desk.sink.Accepts)
    {lines : List (List UInt8)}
    (clean : r.rules.failFast = true → ∀ line ∈ lines, ¬ Malformed r.rules.maxLineLength line) :
    ∃ d tally, d.sink.Accepts ∧
      r.takeAll (lines.map .line) { desk } = { desk := d, linesSeen := lines.length, tally } := by
  cases hrule : r.rules.failFast with
  | false => exact r.takeAll_lines_of_lenient hrule accepts lines
  | true =>
    rw [← r.takeAll_failingFast false (clean hrule)]
    exact (r.failingFast false).takeAll_lines_of_lenient rfl accepts lines

theorem takeAll_of_malformed (r : Run σ) (strict : r.rules.failFast = true) {desk : Desk σ}
    (accepts : desk.sink.Accepts) {before : List (List UInt8)} {line : List UInt8}
    (clean : ∀ earlier ∈ before, ¬ Malformed r.rules.maxLineLength earlier)
    (malformed : Malformed r.rules.maxLineLength line) (after : List (List UInt8)) :
    let p := r.takeAll ((before ++ line :: after).map .line) { desk }
    (∃ fault, p.status = .failed fault) ∧
      p.desk.sink.stored.toList = desk.sink.stored.toList ++
        r.reporter.bytes (flows (before.map (decodeLine r.rules.maxLineLength))) desk.memory := by
  obtain ⟨fault, hd⟩ := malformed
  obtain ⟨d, tally, -, hrun⟩ := r.takeAll_of_clean accepts fun _ => clean
  have running : (r.takeAll (before.map .line) { desk }).status = .running := by rw [hrun]
  have hstop := r.takeAll_malformed clean hd after { desk } running
  rw [← strict, failingFast_self] at hstop
  rw [hstop]
  exact ⟨⟨_, rfl⟩, (r.sent_takeAll desk running).stored⟩

end Run

end Feed

end FlowLines
