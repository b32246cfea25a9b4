import FlowLines.Proofs.Host.Spelling
import FlowLines.Proofs.Reporter.Lines

/-! The flows of a record, each for itself.  Hosts are asked for in their order, whatever becomes of
the flows, and a flow that cannot be laid out has a warning in place of its line. -/

namespace FlowLines

open FlowLines.Flow (Entry Record)
open FlowLines.Host (called)

variable {σ : Type}

namespace Host

def isBlank (host : String) : Bool := host.toList.all Text.isBlank

theorem isEmpty_trimStart (host : String) :
    (Text.trimStart host.toList).isEmpty = isBlank host := by
  rw [Bool.eq_iff_iff, List.isEmpty_iff, Text.trimStart_eq_nil_iff, isBlank, List.all_eq_true]

namespace Resolver

variable (resolve : Resolver σ)

def answers : List String → σ → List (Except Fault String)
  | [], _ => []
  | host :: hosts, s => (resolve host s).1 :: answers hosts (resolve host s).2

theorem answers_append (a b : List String) (s : σ) :
    resolve.answers (a ++ b) s = resolve.answers a s ++ resolve.answers b (resolve.after a s) := by
  induction a generalizing s with
  | nil => rfl
  | cons host a ih =>
    simp only [List.cons_append, answers, ih]
    rfl

theorem after_append (a b : List String) (s : σ) :
    resolve.after (a ++ b) s = resolve.after b (resolve.after a s) := List.foldl_append

/-- From here on, answers do not depend on what was asked before. -/
def Steady (s : σ) : Prop :=
  ∀ earlier host, (resolve host (resolve.after earlier s)).1 = (resolve host s).1

end Resolver

end Host

namespace Flow

def hosts (flows : List Entry) : List String :=
  flows.flatMap fun flow => [flow.sourceHost, flow.destHost]

def askedHosts (flows : List Entry) : List String := (hosts flows).filter (!Host.isBlank ·)

end Flow

/-- Names for hosts in their order.  A blank host has none, and each of the others takes the next
answer. -/
inductive Named : List String → List (Except Host.Fault String) → List String → Prop
  | nil : Named [] [] []
  | blank {host hosts answers names} (h : Host.isBlank host = true) :
    Named hosts answers names → Named (host :: hosts) answers (unknownHost :: names)
  | asked {host hosts answer answers names} (h : Host.isBlank host = false) :
    Named hosts answers names →
      Named (host :: hosts) (answer :: answers)
        (String.ofList (Text.reveal (called host answer).toList) :: names)

theorem Named.append {hosts hosts' names names' : List String}
    {answers answers' : List (Except Host.Fault String)} (h : Named hosts answers names)
    (h' : Named hosts' answers' names') :
    Named (hosts ++ hosts') (answers ++ answers') (names ++ names') := by
  induction h with
  | nil => exact h'
  | blank hblank _ ih => exact .blank hblank ih
  | asked hblank _ ih => exact .asked hblank ih

def skipped (index : Nat) (laid : List (Except Layout.Fault String)) : List Note :=
  (laid.zipIdx index).filterMap fun
    | (.error fault, index) => some (.skippedEntry index fault)
    | (.ok _, _) => none

theorem skipped_cons (index : Nat) (text : Except Layout.Fault String)
    (laid : List (Except Layout.Fault String)) :
    skipped index (text :: laid) = skipped index [text] ++ skipped (index + 1) laid := by
  rw [skipped, List.zipIdx_cons, ← List.singleton_append, List.filterMap_append]
  rfl

theorem length_skipped (index : Nat) (laid : List (Except Layout.Fault String)) :
    (laid.filterMap Except.toOption).length + (skipped index laid).length = laid.length := by
  induction laid generalizing index with
  | nil => rfl
  | cons text laid ih =>
    have hrest := ih (index + 1)
    cases text with
    | error fault =>
      rw [List.filterMap_cons_none rfl, List.length_cons, ← hrest]
      rfl
    | ok line =>
      have hline : (Except.ok line :: laid).filterMap Except.toOption =
          line :: laid.filterMap Except.toOption := rfl
      rw [hline, List.length_cons, List.length_cons, ← hrest]
      exact Nat.succ_add _ _

namespace Reporter

variable (r : Reporter σ)

theorem memory_showHost (host : String) (d : Desk σ) :
    (r.showHost host d).2.memory =
      if Host.isBlank host then d.memory else (r.resolver host d.memory).2 := by
  unfold showHost
  rw [Host.isEmpty_trimStart]
  split
  · rfl
  · dsimp only
    cases (r.resolver host d.memory).1 <;> rfl

/-- Hosts were shown under these names, and the resolver was asked for no others. -/
structure Names (hosts names : List String) (memory memory' : σ) : Prop where
  named : Named hosts (r.resolver.answers (hosts.filter (!Host.isBlank ·)) memory) names
  after : memory' = r.resolver.after (hosts.filter (!Host.isBlank ·)) memory

variable {r}

theorem Names.nil (memory : σ) : r.Names [] [] memory memory := ⟨.nil, rfl⟩

theorem Names.append {hosts hosts' names names' : List String} {m₁ m₂ m₃ : σ}
    (h : r.Names hosts names m₁ m₂) (h' : r.Names hosts' names' m₂ m₃) :
    r.Names (hosts ++ hosts') (names ++ names') m₁ m₃ where
  named := by
    rw [List.filter_append, Host.Resolver.answers_append, ← h.after]
    exact h.named.append h'.named
  after := by rw [List.filter_append, Host.Resolver.after_append, ← h.after, h'.after]

variable (r)

theorem names_showHost (host : String) (d : Desk σ) :
    r.Names [host] [(r.showHost host d).1] d.memory (r.showHost host d).2.memory := by
  have hname := r.fst_showHost host d
  have hmemory := r.memory_showHost host d
  rw [display, Host.isEmpty_trimStart] at hname
  cases hblank : Host.isBlank host with
  | true =>
    rw [hblank, if_pos rfl] at hname hmemory
    rw [hname, hmemory]
    constructor <;> rw [List.filter_cons_of_neg (by simp [hblank])]
    · exact .blank hblank .nil
    · rfl
  | false =>
    rw [hblank, if_neg Bool.false_ne_true] at hname hmemory
    rw [hname, hmemory]
    constructor <;> rw [List.filter_cons_of_pos (by simp [hblank])]
    · exact .asked hblank .nil
    · rfl

theorem names_showFlow (flow : Entry) (d : Desk σ) :
    r.Names [flow.sourceHost, flow.destHost]
      [(r.showFlow flow d).1.source, (r.showFlow flow d).1.dest]
      d.memory (r.showFlow flow d).2.memory :=
  (r.names_showHost flow.sourceHost d).append (r.names_showHost flow.destHost _)

theorem names_shown (flows : List Entry) (memory : σ) :
    r.Names (Flow.hosts flows)
      ((r.shown flows memory).flatMap fun shown => [shown.source, shown.dest])
      memory (r.remember flows memory) := by
  induction flows generalizing memory with
  | nil => exact .nil memory
  | cons flow flows ih => exact (r.names_showFlow flow { memory }).append (ih _)

def showAfresh (memory : σ) (flow : Entry) : Shown where
  flow
  source := display flow.sourceHost (called flow.sourceHost (r.resolver flow.sourceHost memory).1)
  dest := display flow.destHost (called flow.destHost (r.resolver flow.destHost memory).1)

theorem fst_showFlow_after {memory : σ} (steady : r.resolver.Steady memory)
    (earlier : List String) (flow : Entry) :
    (r.showFlow flow { memory := r.resolver.after earlier memory }).1 =
      r.showAfresh memory flow := by
  let d : Desk σ := { memory := r.resolver.after earlier memory }
  have hsource := r.fst_showHost flow.sourceHost d
  have hdest := r.fst_showHost flow.destHost (r.showHost flow.sourceHost d).2
  rw [steady] at hsource
  rw [(r.names_showHost flow.sourceHost d).after, ← Host.Resolver.after_append, steady] at hdest
  rw [showFlow, showAfresh, ← hsource, ← hdest]

theorem shown_after {memory : σ} (steady : r.resolver.Steady memory) (earlier : List String)
    (flows : List Entry) :
    r.shown flows (r.resolver.after earlier memory) = flows.map (r.showAfresh memory) := by
  -- on the flows to come; the hosts of those before are carried along
  induction flows generalizing earlier with
  | nil => rfl
  | cons flow flows ih =>
    rw [shown, (r.names_showFlow flow _).after, ← Host.Resolver.after_append,
      r.fst_showFlow_after steady, ih, List.map_cons]

theorem texts_sublist {memory : σ} (steady : r.resolver.Steady memory) {flows flows' : List Entry}
    (h : flows.Sublist flows') : (r.texts flows memory).Sublist (r.texts flows' memory) := by
  have hshown (flows : List Entry) : r.shown flows memory = flows.map (r.showAfresh memory) :=
    r.shown_after steady [] flows
  rw [texts, texts, hshown, hshown]
  exact (h.map _).filterMap _

theorem writeFlow_warned {d : Desk σ} (accepts : d.sink.Accepts) (index : Nat) (flow : Entry) :
    ∃ added, (r.writeFlow index flow d).2.notes.toList = d.notes.toList ++ added ∧
      added.filter Note.isWarning = skipped index [r.layout.entry (r.showFlow flow d).1] := by
  obtain ⟨asked, hasked, -, hcount⟩ := (r.reported_showFlow accepts flow).noted
  have hfilter : asked.filter Note.isWarning = [] := by
    rwa [List.countP_eq_length_filter, List.length_eq_zero_iff] at hcount
  cases laid : r.layout.entry (r.showFlow flow d).1 with
  | error fault =>
    rw [r.writeFlow_of_error laid]
    refine ⟨asked ++ [.skippedEntry index fault], ?_, ?_⟩
    · rw [Desk.note, Array.toList_push, hasked, List.append_assoc]
    · rw [List.filter_append, hfilter]
      rfl
  | ok line =>
    have hroomy : (r.showFlow flow d).2.sink.room = none := by
      rw [r.sink_showFlow]
      exact accepts.roomy
    rw [r.writeFlow_of_ok accepts.roomy laid, Desk.writeLine_eq hroomy]
    exact ⟨asked, hasked, hfilter⟩

theorem writeFlows_warned {d : Desk σ} (accepts : d.sink.Accepts) (index : Nat) (s : Summary)
    (flows : List Entry) :
    ∃ added, (r.writeFlows index s flows d).2.notes.toList = d.notes.toList ++ added ∧
      added.filter Note.isWarning =
        skipped index ((r.shown flows d.memory).map r.layout.entry) := by
  induction flows generalizing index s d with
  | nil => exact ⟨[], (List.append_nil _).symm, rfl⟩
  | cons flow flows ih =>
    obtain ⟨first, hfirst, hwarned⟩ := r.writeFlow_warned accepts index flow
    obtain ⟨t, d', hw, wrote⟩ := r.writeFlow_wrote accepts.roomy index flow
    rw [hw] at hfirst
    have haccepts : d'.sink.Accepts := by
      rw [wrote.sink]
      exact accepts.accept _
    obtain ⟨rest, hrest, hwarned'⟩ := ih haccepts (index + 1)
      ⟨s.linesWritten + t.linesWritten, s.entriesFailed + t.entriesFailed⟩
    refine ⟨first ++ rest, ?_, ?_⟩
    · rw [writeFlows, hw, ← List.append_assoc, ← hfirst]
      exact hrest
    · rw [List.filter_append, hwarned, hwarned', wrote.memory, (r.showFlow_memory flow d).1,
        ← skipped_cons]
      rfl

/-- Each flow of a record is reported for itself.  The resolver is asked for the hosts of all flows
in their order, blank ones apart, whatever becomes of the flows; a fault of it leaves a host under
its own text.  The flows that can be laid out make the lines, and each of the others a warning with
its own place.  The sink is flushed once, when all of this is done. -/
theorem write_isolated {d : Desk σ} (accepts : d.sink.Accepts) (record : Record) :
    let shown := r.shown record.flows d.memory
    let laid := shown.map r.layout.entry
    let texts := laid.filterMap Except.toOption
    let asked := Flow.askedHosts record.flows
    ∃ summary d₁ d₂ added,
      r.writeFlows 0 {} record.flows d = (.ok summary, d₁) ∧ d₁.flush = (.ok (), d₂) ∧
      r.write record d = (.ok summary, d₂) ∧
      d₁.sink.flushes = d.sink.flushes ∧ d₂.sink.flushes = d.sink.flushes + 1 ∧
      summary.linesWritten + summary.entriesFailed = record.flows.length ∧
      summary.linesWritten = texts.length ∧ summary.entriesFailed = (skipped 0 laid).length ∧
      shown.map Shown.flow = record.flows ∧
      Named (Flow.hosts record.flows) (r.resolver.answers asked d.memory)
        (shown.flatMap fun s => [s.source, s.dest]) ∧
      d₂.memory = r.resolver.after asked d.memory ∧
      d₂.sink.stored.toList = d.sink.stored.toList ++ texts.flatMap lineBytes ∧
      d₂.notes.toList = d.notes.toList ++ added ∧
      added.filter Note.isWarning = skipped 0 laid := by
  intro shown laid texts asked
  obtain ⟨summary, d₁, hflows, wrote⟩ := r.writeFlows_wrote accepts.roomy record.flows
  obtain ⟨added, hadded, hwarned⟩ := r.writeFlows_warned accepts 0 {} record.flows
  obtain ⟨named, after⟩ := r.names_shown record.flows d.memory
  have htexts : r.texts record.flows d.memory = texts := r.texts_eq_filterMap _ _
  have haccepts : d₁.sink.Accepts := by
    rw [wrote.sink]
    exact accepts.accept _
  have hflushes : d₁.sink.flushes = d.sink.flushes := by
    rw [wrote.sink]
    rfl
  have hflush := Desk.flush_eq haccepts
  have hlines : summary.linesWritten = texts.length := by rw [wrote.lines, htexts]
  have hskipped : summary.entriesFailed = (skipped 0 laid).length := by
    have hall : laid.length = record.flows.length := by
      rw [List.length_map, ← r.flows_shown record.flows d.memory, List.length_map]
    have htotal := wrote.total
    rw [hlines, ← hall, ← length_skipped 0 laid] at htotal
    exact Nat.add_left_cancel htotal
  refine ⟨summary, d₁, _, added, hflows, hflush, ?_, hflushes, congrArg (· + 1) hflushes,
    wrote.total, hlines, hskipped, r.flows_shown _ _, named, wrote.memory.trans after, ?_, ?_,
    hwarned⟩
  · rw [r.write_of_writeFlows hflows, hflush]
    rfl
  · dsimp only
    rw [wrote.sink, Sink.toList_accept, bytes, htexts]
  · rw [hflows] at hadded
    exact hadded

theorem write_isolated_middle :
    let resolver : Host.Resolver Nat := fun host n =>
      (if n % 2 = 0 then .ok "known" else .error (.unknown host), n + 1)
    let layout : Layout := ⟨fun shown =>
      if shown.flow.destPort = 0 then .error ⟨"port 0"⟩ else .ok (shown.source ++ shown.dest), id⟩
    let r : Reporter Nat := ⟨layout, resolver, none⟩
    let record : Record := ⟨[.new "a" 1 " " 2 3, .new "b" 1 " " 0 3, .new "c" 1 "d\n" 2 3]⟩
    ({} : Sink).Accepts ∧
    ∃ summary d, r.write record { memory := 0 } = (.ok summary, d) ∧
      summary.linesWritten = 2 ∧ summary.entriesFailed = 1 ∧ d.memory = 4 ∧ d.sink.flushes = 1 ∧
      d.sink.stored.toList = Text.Utf8.encode "knownunknown\nknownd\\n\n".toList ∧
      d.notes.toList.filter Note.isWarning = [.skippedEntry 1 ⟨"port 0"⟩] := by
  intro resolver layout r record
  have accepts : ({ memory := 0 } : Desk Nat).sink.Accepts := Sink.accepts_default
  obtain ⟨summary, -, d, added, -, -, hw, -, hflushes, -, hlines, hfailed, -, -, hmemory, hstored,
    hnotes, hwarned⟩ := r.write_isolated accepts record
  refine ⟨accepts, summary, d, hw, hlines.trans ?_, hfailed.trans ?_, hmemory.trans ?_, hflushes,
    hstored.trans ?_, ?_⟩
  · decide +kernel
  · decide +kernel
  · decide +kernel
  · decide +kernel
  · rw [hnotes]
    exact hwarned.trans rfl

end Reporter

end FlowLines
