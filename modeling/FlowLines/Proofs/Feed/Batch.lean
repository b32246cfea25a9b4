import FlowLines.Proofs.Feed.Sent

/-! How flows are put into records, and records into inputs, does not show: two records report what
their flows report in one, and two inputs what their bytes report in one. -/

namespace FlowLines

open FlowLines.Flow (Record)

variable {σ : Type}

theorem Reporter.write_append (r : Reporter σ) {desk : Desk σ} (accepts : desk.sink.Accepts)
    (a b : Record) :
    ∃ s t d₁ d₂ d, r.write a desk = (.ok s, d₁) ∧ r.write b d₁ = (.ok t, d₂) ∧
      r.write ⟨a.flows ++ b.flows⟩ desk =
        (.ok ⟨s.linesWritten + t.linesWritten, s.entriesFailed + t.entriesFailed⟩, d) ∧
      d.sink.stored = d₂.sink.stored ∧ d.memory = d₂.memory := by
  obtain ⟨s, d₁, hfirst, haccepts, first⟩ := r.write_sent accepts a
  obtain ⟨t, d₂, hsecond, -, second⟩ := r.write_sent haccepts b
  obtain ⟨u, d, hboth, -, both⟩ := r.write_sent accepts ⟨a.flows ++ b.flows⟩
  obtain ⟨rfl, hstored, hmemory⟩ := both.unique (first.append second)
  exact ⟨s, t, d₁, d₂, d, hfirst, hsecond, hboth, hstored, hmemory⟩

namespace Feed

theorem Run.Sent.join {rules : Rules} {reporter : Reporter σ} {source₁ source₂ source : String}
    {start : Desk σ} {a b : List Saying} {p q w : Progress σ}
    (first : Sent ⟨rules, reporter, source₁⟩ start a p)
    (second : Sent ⟨rules, reporter, source₂⟩ p.desk b q)
    (both : Sent ⟨rules, reporter, source⟩ start (a ++ b) w) :
    w.desk.sink.stored = q.desk.sink.stored ∧ w.desk.memory = q.desk.memory ∧
      w.tally.counts = p.tally.counts + q.tally.counts := by
  have hmemory : p.desk.memory = reporter.remember (flows a) start.memory := first.memory
  have hlines : w.tally.linesWritten = p.tally.linesWritten + q.tally.linesWritten := by
    rw [both.lines, first.lines, second.lines, flows_append, Reporter.texts_append,
      List.length_append, hmemory]
  refine ⟨Array.toList_inj.1 ?_, ?_, Prod.ext ?_ (Prod.ext ?_ (Prod.ext hlines ?_))⟩
  · rw [both.stored, second.stored, first.stored, flows_append, Reporter.bytes_append, hmemory,
      List.append_assoc]
  · rw [both.memory, second.memory, flows_append, Reporter.remember_append, hmemory]
  · have := both.read
    have := first.read
    have := second.read
    simp only [Tally.counts, Prod.fst_add, records_append, faults_append, List.length_append] at *
    omega
  · have := both.malformed
    have := first.malformed
    have := second.malformed
    simp only [Tally.counts, Prod.fst_add, Prod.snd_add, faults_append, List.length_append] at *
    omega
  · have := both.total
    have := first.total
    have := second.total
    simp only [Tally.counts, Prod.snd_add, flows_append, List.length_append] at *
    omega

theorem run_sent (f : Feed) (skip : f.rules.failFast = false) (reporter : Reporter σ)
    (source : String) (parts : List (List UInt8)) {desk : Desk σ} (accepts : desk.sink.Accepts) :
    ∃ p : Progress σ, p.desk.sink.Accepts ∧
      Run.Sent ⟨f.rules, reporter, source⟩ desk
        ((lines parts.flatten).map (decodeLine f.rules.maxLineLength)) p ∧
      f.run reporter source (parts.map .bytes) desk =
        (.ok p.tally, p.desk, { f with total := f.total.merge p.tally }) := by
  let r : Run σ := ⟨f.rules, reporter, source⟩
  obtain ⟨d, tally, haccepts, hrun⟩ :=
    r.takeAll_lines_of_lenient skip accepts (lines parts.flatten)
  have running : (r.takeAll ((lines parts.flatten).map .line) { desk }).status = .running := by
    rw [hrun]
  have sent := r.sent_takeAll desk running
  rw [hrun] at sent
  rw [← cut_bytes] at hrun
  exact ⟨_, haccepts, sent, run_of_takeAll (f := f) hrun⟩

/-- Two records, or two inputs of which the first ends with its line, report the same as one: the
same bytes, the same memory of the resolver, and the sum of the counts. -/
theorem run_append (f : Feed) (reporter : Reporter σ) {desk : Desk σ}
    (accepts : desk.sink.Accepts) :
    (∀ a b : Record, ∃ s t d₁ d₂ d,
      reporter.write a desk = (.ok s, d₁) ∧ reporter.write b d₁ = (.ok t, d₂) ∧
      reporter.write ⟨a.flows ++ b.flows⟩ desk =
        (.ok ⟨s.linesWritten + t.linesWritten, s.entriesFailed + t.entriesFailed⟩, d) ∧
      d.sink.stored = d₂.sink.stored ∧ d.memory = d₂.memory) ∧
    (f.rules.failFast = false → ∀ source₁ source₂ source (front back parts : List (List UInt8)),
      EndsLine front.flatten → parts.flatten = front.flatten ++ back.flatten →
      ∃ t₁ t₂ t d₁ d₂ d,
        let f₁ : Feed := { f with total := f.total.merge t₁ }
        let f₂ : Feed := { f with total := f₁.total.merge t₂ }
        let f' : Feed := { f with total := f.total.merge t }
        f.run reporter source₁ (front.map .bytes) desk = (.ok t₁, d₁, f₁) ∧
        f₁.run reporter source₂ (back.map .bytes) d₁ = (.ok t₂, d₂, f₂) ∧
        f.run reporter source (parts.map .bytes) desk = (.ok t, d, f') ∧
        d.sink.stored = d₂.sink.stored ∧ d.memory = d₂.memory ∧
        t.counts = t₁.counts + t₂.counts ∧ f'.total.counts = f₂.total.counts) := by
  refine ⟨reporter.write_append accepts, ?_⟩
  intro skip source₁ source₂ source front back parts ends hparts
  obtain ⟨p, haccepts, first, hfirst⟩ := f.run_sent skip reporter source₁ front accepts
  obtain ⟨q, -, second, hsecond⟩ :=
    run_sent { f with total := f.total.merge p.tally } skip reporter source₂ back haccepts
  obtain ⟨w, -, both, hboth⟩ := f.run_sent skip reporter source parts accepts
  rw [hparts, lines_append ends, List.map_append] at both
  obtain ⟨hstored, hmemory, hcounts⟩ := first.join second both
  refine ⟨_, _, _, _, _, _, hfirst, hsecond, hboth, hstored, hmemory, hcounts, ?_⟩
  dsimp only
  rw [Tally.counts_merge, Tally.counts_merge, Tally.counts_merge, hcounts, add_assoc]

theorem run_append_two_lines :
    let reporter : Reporter Unit := ⟨Layout.line "x", Host.Resolver.raw, none⟩
    let line := ["\x7b\"flows\":[\x7b\"source_host\":\"a\",\"source_port\":1,",
      "\"dest_host\":\"b\",\"dest_port\":2,\"bytes\":3\x7d]\x7d"].flatMap
        fun part => Text.Utf8.encode part.toList
    let front := [line, [lineFeed]]
    let back := [line]
    let parts := [line ++ lineFeed :: line]
    let desk : Desk Unit := { memory := () }
    desk.sink.Accepts ∧ ({} : Feed).rules.failFast = false ∧ EndsLine front.flatten ∧
    parts.flatten = front.flatten ++ back.flatten ∧
    ∃ t₁ t₂ t d₁ d₂ d f₁ f₂ f',
      ({} : Feed).run reporter standardInput (front.map .bytes) desk = (.ok t₁, d₁, f₁) ∧
      f₁.run reporter standardInput (back.map .bytes) d₁ = (.ok t₂, d₂, f₂) ∧
      ({} : Feed).run reporter standardInput (parts.map .bytes) desk = (.ok t, d, f') ∧
      t.counts = t₁.counts + t₂.counts ∧ d.sink.stored = d₂.sink.stored := by
  intro reporter line front back parts desk
  have accepts : desk.sink.Accepts := Sink.accepts_default
  have ends : EndsLine front.flatten := by simp [front, EndsLine]
  have hparts : parts.flatten = front.flatten ++ back.flatten := by simp [parts, front, back]
  obtain ⟨-, hinputs⟩ := run_append {} reporter accepts
  obtain ⟨t₁, t₂, t, d₁, d₂, d, hfirst, hsecond, hboth, hstored, -, hcounts, -⟩ :=
    hinputs rfl standardInput standardInput standardInput front back parts ends hparts
  exact ⟨accepts, rfl, ends, hparts, t₁, t₂, t, d₁, d₂, d, _, _, _, hfirst, hsecond, hboth, hcounts,
    hstored⟩

end Feed

end FlowLines
