import FlowLines.Proofs.Feed.Batch
import FlowLines.Proofs.Feed.Sayings
import FlowLines.Proofs.Reporter.Isolation
import Mathlib.Data.List.Flatten

/-! Lines that may be longer.  Only those that were too long before can say something else then. -/

namespace FlowLines.Feed

variable {σ : Type}

section Line

variable {limit limit' : Nat} {line : List UInt8}

theorem decodeLine_of_fits (fits : (dropReturn line).length ≤ limit) (h : limit ≤ limit') :
    decodeLine limit' line = decodeLine limit line := by
  simp only [decodeLine, if_neg (Nat.not_lt.2 fits), if_neg (Nat.not_lt.2 (fits.trans h))]

theorem decodeLine_of_long (long : limit < (dropReturn line).length) :
    decodeLine limit line = .error (.tooLong (dropReturn line).length limit) := by
  simp only [decodeLine, if_pos long]

theorem record?_of_long (long : limit < (dropReturn line).length) : record? limit line = none := by
  rw [record?, decodeLine_of_long long]
  rfl

theorem Blank.mono (h : limit ≤ limit') (blank : Blank limit line) : Blank limit' line :=
  ⟨blank.fits.trans h, blank.blank⟩

theorem Malformed.anti (h : limit ≤ limit') (malformed : Malformed limit' line) :
    Malformed limit line := by
  by_cases fits : (dropReturn line).length ≤ limit
  · rwa [Malformed, ← decodeLine_of_fits fits h]
  · exact ⟨_, decodeLine_of_long (Nat.lt_of_not_le fits)⟩

end Line

section Lines

variable {limit limit' : Nat} (h : limit ≤ limit') (lines : List (List UInt8))

include h

theorem records_sublist :
    (records (lines.map (decodeLine limit))).Sublist (records (lines.map (decodeLine limit'))) := by
  let fits (line : List UInt8) : Bool := (dropReturn line).length ≤ limit
  have hlong (line : List UInt8) (long : fits line = false) : record? limit line = none :=
    record?_of_long (Nat.lt_of_not_le (of_decide_eq_false long))
  have hfits : (lines.filter fits).map (decodeLine limit) =
      (lines.filter fits).map (decodeLine limit') := by
    apply List.map_congr_left
    intro line hline
    exact (decodeLine_of_fits (of_decide_eq_true (List.mem_filter.1 hline).2) h).symm
  rw [← records_filter hlong, hfits]
  exact (List.filter_sublist.map _).filterMap _

theorem flows_sublist :
    (flows (lines.map (decodeLine limit))).Sublist (flows (lines.map (decodeLine limit'))) :=
  (records_sublist h lines).flatMap _

theorem length_faults_le :
    (faults (lines.map (decodeLine limit'))).length ≤
      (faults (lines.map (decodeLine limit))).length := by
  rw [length_faults_map, length_faults_map]
  apply List.countP_mono_left
  intro line _ malformed
  exact decide_eq_true ((of_decide_eq_true malformed).anti h)

theorem length_read_le :
    (records (lines.map (decodeLine limit'))).length +
        (faults (lines.map (decodeLine limit'))).length ≤
      (records (lines.map (decodeLine limit))).length +
        (faults (lines.map (decodeLine limit))).length := by
  rw [length_read_map, length_read_map]
  apply List.countP_mono_left
  intro line _ shown
  exact decide_eq_true fun blank => of_decide_eq_true shown (blank.mono h)

end Lines

def withLineLimit (limit : Nat) (f : Feed) : Feed :=
  { f with rules := { f.rules with maxLineLength := limit } }

namespace Run

variable (r : Run σ)

def withLineLimit (limit : Nat) : Run σ :=
  { r with rules := { r.rules with maxLineLength := limit } }

theorem take_of_fits {limit : Nat} (h : r.rules.maxLineLength ≤ limit) {line : List UInt8}
    (fits : (dropReturn line).length ≤ r.rules.maxLineLength) (p : Progress σ) :
    (r.withLineLimit limit).take p (.line line) = r.take p (.line line) := by
  rw [take_line_eq_enter, take_line_eq_enter]
  exact congrArg (r.enter p) (decodeLine_of_fits fits h)

theorem take_of_long (strict : r.rules.failFast = true) {line : List UInt8}
    (long : r.rules.maxLineLength < (dropReturn line).length) {p : Progress σ}
    (running : p.status = .running) :
    ∃ fault, (r.take p (.line line)).status = .failed fault := by
  rw [r.take_line_of_running running]
  simp only [takeLine, decodeLine_of_long long, strict, if_true]
  exact ⟨_, rfl⟩

theorem takeAll_withLineLimit (strict : r.rules.failFast = true) {limit : Nat}
    (h : r.rules.maxLineLength ≤ limit) {lines : List (List UInt8)} {p : Progress σ} {tally : Tally}
    (ok : (r.takeAll (lines.map .line) p).outcome = .ok tally) :
    (r.withLineLimit limit).takeAll (lines.map .line) p = r.takeAll (lines.map .line) p := by
  induction lines generalizing p with
  | nil => rfl
  | cons line lines ih =>
    rw [List.map_cons, takeAll_cons] at ok ⊢
    have same : (r.withLineLimit limit).take p (.line line) = r.take p (.line line) := by
      by_cases running : p.status = .running
      · by_cases fits : (dropReturn line).length ≤ r.rules.maxLineLength
        · exact r.take_of_fits h fits p
        · obtain ⟨fault, failed⟩ := r.take_of_long strict (Nat.lt_of_not_le fits) running
          rw [r.takeAll_of_stopped (by simp [failed]), Progress.outcome, failed] at ok
          cases ok
      · rw [take_of_stopped _ running, take_of_stopped _ running]
    rw [takeAll_cons, same]
    exact ih ok

end Run

/-- With a limit that is no less, an input that passes over malformed lines has all the lines in its
report that it had, with others between them, and no more lines are malformed or read; that is where
answers of the resolver do not depend on what it was asked before.  Where malformed lines end the
input, and none did, the limit does not show. -/
theorem run_withLineLimit (f : Feed) {limit : Nat} (h : f.rules.maxLineLength ≤ limit)
    (reporter : Reporter σ) (source : String) (parts : List (List UInt8)) (desk : Desk σ) :
    let f' := f.withLineLimit limit
    let texts (limit : Nat) : List String :=
      reporter.texts (flows ((lines parts.flatten).map (decodeLine limit))) desk.memory
    (f.rules.failFast = false → desk.sink.Accepts → reporter.resolver.Steady desk.memory →
      ∃ tally tally' d d',
        f.run reporter source (parts.map .bytes) desk =
          (.ok tally, d, { f with total := f.total.merge tally }) ∧
        f'.run reporter source (parts.map .bytes) desk =
          (.ok tally', d', { f' with total := f'.total.merge tally' }) ∧
        d.sink.stored.toList =
          desk.sink.stored.toList ++ (texts f.rules.maxLineLength).flatMap lineBytes ∧
        d'.sink.stored.toList = desk.sink.stored.toList ++ (texts limit).flatMap lineBytes ∧
        tally.linesWritten = (texts f.rules.maxLineLength).length ∧
        tally'.linesWritten = (texts limit).length ∧
        (texts f.rules.maxLineLength).Sublist (texts limit) ∧
        tally'.recordsMalformed ≤ tally.recordsMalformed ∧
        tally'.recordsRead ≤ tally.recordsRead) ∧
    (f.rules.failFast = true → ∀ tally d f₁,
      f.run reporter source (parts.map .bytes) desk = (.ok tally, d, f₁) →
      f'.run reporter source (parts.map .bytes) desk =
        (.ok tally, d, { f' with total := f'.total.merge tally })) := by
  intro f' texts
  constructor
  · intro skip accepts steady
    obtain ⟨p, -, sent, hrun⟩ := f.run_sent skip reporter source parts accepts
    obtain ⟨p', -, sent', hrun'⟩ := f'.run_sent skip reporter source parts accepts
    refine ⟨p.tally, p'.tally, p.desk, p'.desk, hrun, hrun', sent.stored, sent'.stored,
      sent.lines, sent'.lines, reporter.texts_sublist steady (flows_sublist h _), ?_, ?_⟩
    · rw [sent.malformed, sent'.malformed]
      exact length_faults_le h _
    · rw [sent.read, sent'.read]
      exact length_read_le h _
  · intro strict tally d f₁ ok
    let r : Run σ := ⟨f.rules, reporter, source⟩
    have hcut : cut (parts.map .bytes) = (lines parts.flatten).map .line := cut_bytes parts
    obtain ⟨p, hp⟩ : ∃ p, r.takeAll (cut (parts.map .bytes)) { desk } = p := ⟨_, rfl⟩
    rw [run_of_takeAll hp] at ok
    obtain ⟨houtcome, rest⟩ := Prod.mk.inj ok
    obtain ⟨rfl, -⟩ := Prod.mk.inj rest
    have hp' : (r.withLineLimit limit).takeAll (cut (parts.map .bytes)) { desk } = p := by
      rw [← hp, hcut] at houtcome
      rw [← hp, hcut]
      exact r.takeAll_withLineLimit strict h houtcome
    rw [run_of_takeAll (f := f') hp', houtcome]

theorem run_withLineLimit_record :
    let reporter : Reporter Unit := ⟨Layout.line "x", Host.Resolver.raw, none⟩
    let short := Text.Utf8.encode "\x7b\"flows\":[]\x7d".toList
    let line := ["\x7b\"flows\":[\x7b\"source_host\":\"a\",\"source_port\":1,",
      "\"dest_host\":\"b\",\"dest_port\":2,\"bytes\":3\x7d]\x7d"].flatMap
        fun part => Text.Utf8.encode part.toList
    let f : Feed := { rules := { maxLineLength := short.length } }
    let parts := [line ++ lineFeed :: short]
    let desk : Desk Unit := { memory := () }
    f.rules.maxLineLength ≤ line.length ∧ f.rules.failFast = false ∧
    f.strict.rules.failFast = true ∧ desk.sink.Accepts ∧ reporter.resolver.Steady desk.memory ∧
    (∃ t t' d d' f₁ f₂,
      f.run reporter standardInput (parts.map .bytes) desk = (.ok t, d, f₁) ∧
      (f.withLineLimit line.length).run reporter standardInput (parts.map .bytes) desk =
        (.ok t', d', f₂) ∧
      t.linesWritten = 0 ∧ t'.linesWritten = 1 ∧ t'.recordsMalformed ≤ t.recordsMalformed) ∧
    ∃ t d f₁ f₂,
      f.strict.run reporter standardInput ([short].map .bytes) desk = (.ok t, d, f₁) ∧
      (f.strict.withLineLimit line.length).run reporter standardInput ([short].map .bytes) desk =
        (.ok t, d, f₂) := by
  intro reporter short line f parts desk
  have accepts : desk.sink.Accepts := Sink.accepts_default
  have steady : reporter.resolver.Steady desk.memory := fun _ _ => rfl
  have hlimit : f.rules.maxLineLength ≤ line.length := by decide +kernel
  obtain ⟨skips, -⟩ := run_withLineLimit f hlimit reporter standardInput parts desk
  obtain ⟨t, t', d, d', hrun, hrun', -, -, hlines, hlines', -, hmalformed, -⟩ :=
    skips rfl accepts steady
  let r : Run Unit := ⟨f.strict.rules, reporter, standardInput⟩
  have clean : ∀ l ∈ [short], ¬ Malformed r.rules.maxLineLength l := by decide +kernel
  obtain ⟨e, u, -, hall⟩ := r.takeAll_of_clean accepts fun _ => clean
  have hcut : cut ([short].map .bytes) = [short].map .line := by
    rw [cut_bytes]
    exact congrArg _ (by decide +kernel)
  rw [← hcut] at hall
  have hstrict := run_of_takeAll (f := f.strict) hall
  obtain ⟨-, ends⟩ := run_withLineLimit f.strict hlimit reporter standardInput [short] desk
  exact ⟨hlimit, rfl, rfl, accepts, steady,
    ⟨t, t', d, d', _, _, hrun, hrun', hlines.trans (by decide +kernel),
      hlines'.trans (by decide +kernel), hmalformed⟩,
    _, _, _, _, hstrict, ends rfl _ _ _ hstrict⟩

end FlowLines.Feed
