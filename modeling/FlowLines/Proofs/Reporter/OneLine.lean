import FlowLines.Proofs.Feed.Lines
import FlowLines.Proofs.Layout.OneLine
import FlowLines.Proofs.Reporter.Lines

/-! No text from outside splits a line or makes one: what a record comes to on a sink is cut at
its line feeds into the lines of its flows. -/

namespace FlowLines

open FlowLines.Feed (lineFeed carriageReturn)
open FlowLines.Flow (Record)
open FlowLines.Text (OneLine)

theorem lineBytes_eq (text : String) :
    lineBytes text = Text.Utf8.encode text.toList ++ [lineFeed] := by
  rw [lineBytes, Text.Utf8.encode, List.flatMap_append]
  rfl

theorem lineFeed_notMem_encode {s : List Char} (h : OneLine s) :
    lineFeed ∉ Text.Utf8.encode s :=
  Text.Utf8.notMem_encode (c := '\n') rfl (by decide) fun c hc => (h c hc).1

theorem carriageReturn_notMem_encode {s : List Char} (h : OneLine s) :
    carriageReturn ∉ Text.Utf8.encode s :=
  Text.Utf8.notMem_encode (c := '\r') rfl (by decide) fun c hc => (h c hc).2

namespace Reporter

variable {σ : Type} (r : Reporter σ)

theorem oneLine_shown {flows : List Flow.Entry} {memory : σ} {s : Shown}
    (h : s ∈ r.shown flows memory) : OneLine s.source.toList ∧ OneLine s.dest.toList := by
  obtain ⟨⟨t, hsource⟩, u, hdest⟩ := r.exists_reveal_shown h
  rw [hsource, hdest, String.toList_ofList, String.toList_ofList]
  exact ⟨Text.oneLine_reveal _, Text.oneLine_reveal _⟩

end Reporter

theorem flatMap_lineBytes (texts : List String) :
    texts.flatMap lineBytes =
      (texts.map fun text => Text.Utf8.encode text.toList).flatMap (· ++ [lineFeed]) := by
  rw [List.flatMap_map]
  exact congrArg (List.flatMap · texts) (funext lineBytes_eq)

/-- A record in one of the formats is one line a flow, in their order, whatever its texts hold and
whatever the resolver answers.  Only the label of the plain line may not have line breaks. -/
theorem Format.write_one_line_each (format : Format) {label : String}
    (hlabel : format = .line → OneLine label.toList) {σ : Type} (resolver : Host.Resolver σ)
    (marker : Option String) (record : Record) {d : Desk σ} (accepts : d.sink.Accepts) :
    let r : Reporter σ := ⟨format.layout label, resolver, marker⟩
    let shown := r.shown record.flows d.memory
    ∃ summary d', ∃ bytes : List UInt8, ∃ texts : List String,
      r.write record d = (.ok summary, d') ∧
      d'.sink.stored.toList = d.sink.stored.toList ++ bytes ∧
      carriageReturn ∉ bytes ∧
      bytes.count lineFeed = summary.linesWritten ∧
      bytes.splitOn lineFeed = texts.map (fun text => Text.Utf8.encode text.toList) ++ [[]] ∧
      shown.map r.layout.entry = texts.map .ok ∧
      shown.map Shown.flow = record.flows := by
  intro r shown
  have hshown : ∀ s ∈ shown, OneLine s.source.toList ∧ OneLine s.dest.toList :=
    fun s hs => r.oneLine_shown hs
  obtain ⟨texts, hlaid, hone⟩ := format.oneLine_layout_map hlabel hshown
  have htexts : r.texts record.flows d.memory = texts := by
    rw [r.texts_of_laid hlaid]
  obtain ⟨s, d', hw, hlines, hsink⟩ := r.write_of_accepts accepts record
  have hbytes : r.bytes record.flows d.memory =
      (texts.map fun text => Text.Utf8.encode text.toList).flatMap (· ++ [lineFeed]) := by
    rw [Reporter.bytes, htexts, flatMap_lineBytes]
  have hfeed : ∀ p ∈ texts.map (fun text => Text.Utf8.encode text.toList), lineFeed ∉ p := by
    intro p hp
    obtain ⟨text, ht, rfl⟩ := List.mem_map.1 hp
    exact lineFeed_notMem_encode (hone text ht)
  refine ⟨s, d', _, texts, hw, hsink, ?_, ?_, ?_, hlaid, r.flows_shown _ _⟩
  · rw [hbytes]
    intro hmem
    obtain ⟨p, hp, hmem⟩ := List.mem_flatMap.1 hmem
    obtain ⟨text, ht, rfl⟩ := List.mem_map.1 hp
    rcases List.mem_append.1 hmem with hmem | hmem
    · exact carriageReturn_notMem_encode (hone text ht) hmem
    · exact absurd hmem (by decide)
  · rw [hbytes, Feed.count_terminated hfeed, hlines, htexts, List.length_map]
  · rw [hbytes, Feed.splitOn_terminated hfeed]

theorem Format.write_one_line_each_forged :
    let label := "x"
    let resolver : Host.Resolver Unit := fun _ m => (.ok "a\r\nx b:1", m)
    let r : Reporter Unit := ⟨Format.line.layout label, resolver, none⟩
    let record : Record := ⟨[{ sourceHost := "c\n", nextHop := some "\n" }]⟩
    (Format.line = .line → OneLine label.toList) ∧ ({} : Sink).Accepts ∧
    ∃ summary d', r.write record { memory := () } = (.ok summary, d') ∧
      d'.sink.stored.toList.count lineFeed = summary.linesWritten := by
  intro label resolver r record
  have hlabel : Format.line = .line → OneLine label.toList := fun _ => by decide
  obtain ⟨summary, d', bytes, -, hw, hstored, -, hcount, -⟩ :=
    Format.line.write_one_line_each hlabel resolver none record (d := { memory := () })
      Sink.accepts_default
  refine ⟨hlabel, Sink.accepts_default, summary, d', hw, ?_⟩
  rw [hstored]
  exact hcount

end FlowLines
