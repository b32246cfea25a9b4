import FlowLines.Proofs.Feed.Batch
import FlowLines.Proofs.Feed.Sayings
import Mathlib.Data.List.SplitBy

/-! Lines that are passed over may as well not be there. -/

namespace FlowLines.Feed

variable {σ : Type}

def rows (bytes : List UInt8) : List (List UInt8) := bytes.splitBy fun b _ => b != lineFeed

theorem rows_append {a b : List UInt8} (h : EndsLine a) : rows (a ++ b) = rows a ++ rows b := by
  apply List.splitBy_append
  intro x hx y _
  rw [h x hx]
  exact bne_self_eq_false lineFeed

theorem isChain_row {line : List UInt8} (h : lineFeed ∉ line) :
    (line ++ [lineFeed]).IsChain fun b _ => (b != lineFeed) = true := by
  induction line with
  | nil => exact List.isChain_singleton lineFeed
  | cons b line ih =>
    rw [List.mem_cons, not_or] at h
    obtain ⟨hb, hline⟩ := h
    exact List.isChain_cons.2 ⟨fun _ _ => bne_iff_ne.2 (Ne.symm hb), ih hline⟩

theorem rows_append_cons {line : List UInt8} (h : lineFeed ∉ line) (rest : List UInt8) :
    rows (line ++ lineFeed :: rest) = (line ++ [lineFeed]) :: rows rest := by
  rw [List.append_cons, rows_append (by simp [EndsLine]), rows,
    List.splitBy_of_isChain (by simp) (isChain_row h), List.singleton_append]

theorem rows_of_notMem {bytes : List UInt8} (h : lineFeed ∉ bytes) :
    rows bytes = if bytes = [] then [] else [bytes] := by
  by_cases hempty : bytes = []
  · rw [if_pos hempty, hempty]
    rfl
  · rw [if_neg hempty]
    exact List.splitBy_of_isChain hempty (List.isChain_append.1 (isChain_row h)).1

section Without

variable (P : List UInt8 → Prop) [DecidablePred P]

def without (bytes : List UInt8) : List UInt8 :=
  ((rows bytes).filter fun row => ¬ P (row.filter (· != lineFeed))).flatten

theorem filter_ne_of_notMem {line : List UInt8} (h : lineFeed ∉ line) :
    line.filter (· != lineFeed) = line := by
  apply List.filter_eq_self.2
  intro b hb
  exact bne_iff_ne.2 fun he => h (he ▸ hb)

theorem without_append_cons {line : List UInt8} (h : lineFeed ∉ line) (rest : List UInt8) :
    without P (line ++ lineFeed :: rest) =
      if P line then without P rest else line ++ lineFeed :: without P rest := by
  have hrow : (line ++ [lineFeed]).filter (· != lineFeed) = line := by
    rw [List.filter_append, filter_ne_of_notMem h]
    exact List.append_nil line
  rw [without, rows_append_cons h, List.filter_cons, hrow]
  by_cases hP : P line
  · simp [hP, without]
  · simp [hP, without]

theorem without_of_notMem {bytes : List UInt8} (h : lineFeed ∉ bytes) :
    without P bytes = if P bytes then [] else bytes := by
  rw [without, rows_of_notMem h]
  by_cases hempty : bytes = []
  · simp [hempty]
  · rw [if_neg hempty, List.filter_singleton, filter_ne_of_notMem h]
    by_cases hP : P bytes <;> simp [hP]

theorem lines_without (bytes : List UInt8) :
    lines (without P bytes) = (lines bytes).filter (¬ P ·) := by
  induction bytes using lines_induction with
  | unfinished bytes h =>
    rw [without_of_notMem P h, lines_of_notMem h]
    by_cases hempty : bytes = []
    · rw [if_pos hempty, hempty, ite_self]
      rfl
    · by_cases hP : P bytes
      · rw [if_pos hP, if_neg hempty, List.filter_cons_of_neg (by simpa using hP)]
        rfl
      · rw [if_neg hP, lines_of_notMem h, if_neg hempty,
          List.filter_cons_of_pos (by simpa using hP), List.filter_nil]
  | line line rest h ih =>
    rw [without_append_cons P h, lines_append_cons h]
    by_cases hP : P line
    · rw [if_pos hP, ih, List.filter_cons_of_neg (by simpa using hP)]
    · rw [if_neg hP, lines_append_cons h, ih, List.filter_cons_of_pos (by simpa using hP)]

end Without

def PassedOver (limit : Nat) (line : List UInt8) : Prop := Malformed limit line ∨ Blank limit line

instance (limit : Nat) (line : List UInt8) : Decidable (PassedOver limit line) :=
  inferInstanceAs (Decidable (_ ∨ _))

theorem records_without (limit : Nat) (bytes : List UInt8) :
    records ((lines (without (PassedOver limit) bytes)).map (decodeLine limit)) =
      records ((lines bytes).map (decodeLine limit)) := by
  rw [lines_without]
  apply records_filter
  intro line dropped
  exact record?_eq_none_iff.2 (not_not.1 (of_decide_eq_false dropped))

theorem faults_without (limit : Nat) (bytes : List UInt8) :
    faults ((lines (without (PassedOver limit) bytes)).map (decodeLine limit)) = [] := by
  rw [← List.length_eq_zero_iff, length_faults_map, lines_without, List.countP_eq_zero]
  intro line h malformed
  have kept := of_decide_eq_true (List.mem_filter.1 h).2
  exact kept (.inl (of_decide_eq_true malformed))

/-- An input with blank lines put between its lines, one after the other. -/
inductive Spaced (limit : Nat) (bytes : List UInt8) : List UInt8 → Prop
  | same : Spaced limit bytes bytes
  | blank {front line back} : Spaced limit bytes (front ++ back) → EndsLine front →
    lineFeed ∉ line → Blank limit line → Spaced limit bytes (front ++ line ++ lineFeed :: back)

theorem Spaced.said {limit : Nat} {bytes bytes' : List UInt8} (h : Spaced limit bytes bytes') :
    records ((lines bytes').map (decodeLine limit)) =
        records ((lines bytes).map (decodeLine limit)) ∧
      faults ((lines bytes').map (decodeLine limit)) =
        faults ((lines bytes).map (decodeLine limit)) := by
  induction h with
  | same => exact ⟨rfl, rfl⟩
  | @blank front line back _ ends hline blank ih =>
    rw [← ih.1, ← ih.2, List.append_assoc, lines_append ends, lines_append ends,
      lines_append_cons hline, List.map_append, List.map_append, List.map_cons,
      decodeLine_eq_none_iff.2 blank, List.append_cons]
    constructor
    · rw [records_append, records_concat_blank, records_append]
    · rw [faults_append, faults_concat_blank, faults_append]

theorem Run.Sent.unique {r : Run σ} {start : Desk σ} {said said' : List Saying}
    {p p' : Progress σ} (h : r.Sent start said p) (h' : r.Sent start said' p')
    (same : records said' = records said) :
    p'.desk.sink.stored = p.desk.sink.stored ∧ p'.desk.memory = p.desk.memory ∧
      p'.tally.linesWritten = p.tally.linesWritten ∧
      p'.tally.entriesFailed = p.tally.entriesFailed := by
  have hflows : flows said' = flows said := by rw [flows, flows, same]
  have hlines : p'.tally.linesWritten = p.tally.linesWritten := by rw [h'.lines, h.lines, hflows]
  have htotal := h'.total
  rw [hflows, ← h.total, hlines] at htotal
  refine ⟨Array.toList_inj.1 ?_, ?_, hlines, Nat.add_left_cancel htotal⟩
  · rw [h'.stored, h.stored, hflows]
  · rw [h'.memory, h.memory, hflows]

/-- An input that passes over malformed lines comes to the same without the lines that are malformed
or blank, of which only the malformed ones were counted, and to the same with more blank lines. -/
theorem run_without (f : Feed) (skip : f.rules.failFast = false) (reporter : Reporter σ)
    (source : String) (parts : List (List UInt8)) {desk : Desk σ} (accepts : desk.sink.Accepts) :
    let limit := f.rules.maxLineLength
    ∃ tally d, f.run reporter source (parts.map .bytes) desk =
        (.ok tally, d, { f with total := f.total.merge tally }) ∧
      tally.recordsMalformed = (lines parts.flatten).countP (Malformed limit ·) ∧
      (∀ parts' : List (List UInt8), parts'.flatten = without (PassedOver limit) parts.flatten →
        ∃ tally' d', f.run reporter source (parts'.map .bytes) desk =
            (.ok tally', d', { f with total := f.total.merge tally' }) ∧
          d'.sink.stored = d.sink.stored ∧ d'.memory = d.memory ∧
          tally'.linesWritten = tally.linesWritten ∧
          tally'.entriesFailed = tally.entriesFailed ∧
          tally'.recordsMalformed = 0 ∧
          tally'.recordsRead + tally.recordsMalformed = tally.recordsRead) ∧
      ∀ parts' : List (List UInt8), Spaced limit parts.flatten parts'.flatten →
        ∃ tally' d', f.run reporter source (parts'.map .bytes) desk =
            (.ok tally', d', { f with total := f.total.merge tally' }) ∧
          d'.sink.stored = d.sink.stored ∧ d'.memory = d.memory ∧
          tally'.counts = tally.counts := by
  intro limit
  obtain ⟨p, -, sent, hrun⟩ := f.run_sent skip reporter source parts accepts
  refine ⟨p.tally, p.desk, hrun, sent.malformed.trans (length_faults_map _ _), ?_, ?_⟩
  · intro parts' h
    obtain ⟨q, -, sent', hrun'⟩ := f.run_sent skip reporter source parts' accepts
    rw [h] at sent'
    have hrecords := records_without limit parts.flatten
    obtain ⟨hstored, hmemory, hlines, hfailed⟩ := sent.unique sent' hrecords
    have hmalformed : q.tally.recordsMalformed = 0 := by rw [sent'.malformed, faults_without]; rfl
    refine ⟨q.tally, q.desk, hrun', hstored, hmemory, hlines, hfailed, hmalformed, ?_⟩
    rw [sent'.read, ← sent'.malformed, hmalformed, hrecords, sent.malformed, sent.read,
      Nat.add_zero]
  · intro parts' spaced
    obtain ⟨q, -, sent', hrun'⟩ := f.run_sent skip reporter source parts' accepts
    obtain ⟨hrecords, hfaults⟩ := spaced.said
    obtain ⟨hstored, hmemory, hlines, hfailed⟩ := sent.unique sent' hrecords
    refine ⟨q.tally, q.desk, hrun', hstored, hmemory, ?_⟩
    rw [Tally.counts, Tally.counts, sent'.read, sent.read, sent'.malformed, sent.malformed,
      hrecords, hfaults, hlines, hfailed]

theorem run_without_word :
    let reporter : Reporter Unit := ⟨Layout.line "x", Host.Resolver.raw, none⟩
    let line := ["\x7b\"flows\":[\x7b\"source_host\":\"a\",\"source_port\":1,",
      "\"dest_host\":\"b\",\"dest_port\":2,\"bytes\":3\x7d]\x7d"].flatMap
        fun part => Text.Utf8.encode part.toList
    let word := Text.Utf8.encode "word".toList
    let blanks := Text.Utf8.encode "  ".toList
    let parts := [word ++ lineFeed :: lineFeed :: line]
    let bare := [line]
    let spaced := [blanks ++ lineFeed :: parts.flatten]
    let limit := ({} : Feed).rules.maxLineLength
    ({} : Feed).rules.failFast = false ∧ ({} : Sink).Accepts ∧
    bare.flatten = without (PassedOver limit) parts.flatten ∧
    Spaced limit parts.flatten spaced.flatten ∧
    ∃ t t' t'' d d' d'' f f' f'',
      ({} : Feed).run reporter standardInput (parts.map .bytes) { memory := () } = (.ok t, d, f) ∧
      ({} : Feed).run reporter standardInput (bare.map .bytes) { memory := () } =
        (.ok t', d', f') ∧
      ({} : Feed).run reporter standardInput (spaced.map .bytes) { memory := () } =
        (.ok t'', d'', f'') ∧
      d'.sink.stored = d.sink.stored ∧ d''.sink.stored = d.sink.stored ∧
      t.recordsMalformed = 1 ∧ t'.recordsRead + t.recordsMalformed = t.recordsRead ∧
      t''.counts = t.counts := by
  intro reporter line word blanks parts bare spaced limit
  have accepts : ({ memory := () } : Desk Unit).sink.Accepts := Sink.accepts_default
  have hbare : bare.flatten = without (PassedOver limit) parts.flatten := by decide +kernel
  have hspaced : Spaced limit parts.flatten spaced.flatten := by
    rw [show spaced.flatten = [] ++ blanks ++ lineFeed :: parts.flatten from List.flatten_singleton]
    exact .blank .same (by simp [EndsLine]) (by decide +kernel) (by decide +kernel)
  obtain ⟨t, d, hrun, hmalformed, deleted, inserted⟩ :=
    run_without {} rfl reporter standardInput parts accepts
  obtain ⟨t', d', hrun', hstored', -, -, -, -, hread⟩ := deleted bare hbare
  obtain ⟨t'', d'', hrun'', hstored'', -, hcounts⟩ := inserted spaced hspaced
  exact ⟨rfl, accepts, hbare, hspaced, t, t', t'', d, d', d'', _, _, _, hrun, hrun', hrun'',
    hstored', hstored'', hmalformed.trans (by decide +kernel), hread, hcounts⟩

end FlowLines.Feed
