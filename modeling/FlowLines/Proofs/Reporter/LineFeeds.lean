import FlowLines.Proofs.Reporter.OneLine
import FlowLines.Proofs.Reporter.Sent
import FlowLines.Settings.Decode

/-! How many line feeds a report has: one for every line and one for the marker, and those of a
label or a marker in a format that writes them as they are. -/

namespace FlowLines

open FlowLines.Feed (lineFeed)
open FlowLines.Flow (Entry Record)
open FlowLines.Text (OneLine)

namespace Layout

theorem Line.count_entry (label : String) {shown : Shown} (hsource : OneLine shown.source.toList)
    (hdest : OneLine shown.dest.toList) :
    (entry label shown).count '\n' = label.toList.count '\n' := by
  obtain ⟨rest, hentry, hrest⟩ :
      ∃ rest, entry label shown = label.toList ++ rest ∧ OneLine rest := by
    simp only [entry, List.append_assoc, List.cons_append]
    refine ⟨_, rfl, ?_⟩
    simp [Text.oneLine_decimal, hsource, hdest]
  rw [hentry, List.count_append, hrest.count_eq_zero, Nat.add_zero]

theorem Xml.count_partDashes (s : List Char) : (partDashes s).count '\n' = s.count '\n' := by
  fun_induction partDashes s with
  | case1 r ih => simp [ih]
  | case2 c r _ ih => simp [ih, List.count_cons]
  | case3 => rfl

theorem Xml.count_comment (s : List Char) : (comment s).count '\n' = s.count '\n' := by
  have hopen : OneLine "<!-- ".toList := by decide
  have hclose : OneLine " -->".toList := by decide
  change ("<!-- ".toList ++ partDashes s ++ " -->".toList).count '\n' = s.count '\n'
  rw [List.count_append, List.count_append, hopen.count_eq_zero, hclose.count_eq_zero,
    count_partDashes, Nat.zero_add, Nat.add_zero]

end Layout

namespace Format

/-- The line feeds of a label that come into every line. -/
def labelBreaks (label : String) : Format → Nat
  | line => label.toList.count '\n'
  | _ => 0

/-- The line feeds of a marker that come into its line. -/
def markerBreaks (marker : String) : Format → Nat
  | line | xml => marker.toList.count '\n'
  | logfmt | jsonLines => 0

theorem count_layout (format : Format) (label : String) {shown : Shown}
    (hsource : OneLine shown.source.toList) (hdest : OneLine shown.dest.toList) {text : String}
    (h : (format.layout label).entry shown = .ok text) :
    text.toList.count '\n' = format.labelBreaks label := by
  by_cases hline : format = line
  · subst hline
    obtain rfl := Except.ok.inj h
    rw [String.toList_ofList]
    exact Layout.Line.count_entry label hsource hdest
  · have hlabel : format = line → OneLine label.toList := fun hformat => absurd hformat hline
    obtain ⟨other, hother, hone⟩ := format.oneLine_layout hlabel hsource hdest
    obtain rfl := Except.ok.inj (h.symm.trans hother)
    rw [hone.count_eq_zero]
    cases format with
    | line => exact absurd rfl hline
    | logfmt | jsonLines | xml => rfl

theorem count_marker (format : Format) (label marker : String) :
    ((format.layout label).marker marker).toList.count '\n' = format.markerBreaks marker := by
  cases format with
  | line => rfl
  | logfmt =>
    have hone : OneLine (Layout.Logfmt.writeFields [("label", label), ("msg", marker)]) :=
      Layout.Logfmt.oneLine_writeFields (List.forall_mem_cons.2
        ⟨(by decide : Text.Visible "label".toList),
          List.forall_mem_singleton.2 (by decide : Text.Visible "msg".toList)⟩)
    simp only [layout, Layout.logfmt, String.toList_ofList]
    exact hone.count_eq_zero
  | jsonLines =>
    have hone : OneLine (Json.writeObject [("label", .text label), ("msg", .text marker)]) :=
      Json.oneLine_writeObject (List.forall_mem_cons.2
        ⟨(by decide : Text.Visible "label".toList),
          List.forall_mem_singleton.2 (by decide : Text.Visible "msg".toList)⟩)
    simp only [layout, Layout.jsonLines, String.toList_ofList]
    exact hone.count_eq_zero
  | xml =>
    simp only [layout, Layout.xml, String.toList_ofList]
    exact Layout.Xml.count_comment _

end Format

theorem count_lineBytes (text : String) :
    (lineBytes text).count lineFeed = 1 + text.toList.count '\n' := by
  rw [lineBytes_eq, List.count_append, Text.Utf8.count_encode (c := '\n') rfl (by decide),
    Nat.add_comm]
  rfl

namespace Reporter

variable {σ : Type} (r : Reporter σ)

def writeEach : List Record → Desk σ → Except DeviceFault (List Summary) × Desk σ
  | [], d => (.ok [], d)
  | record :: records, d =>
    match r.write record d with
    | (.error fault, d) => (.error fault, d)
    | (.ok summary, d) =>
      let (summaries, d) := writeEach records d
      (summaries.map (summary :: ·), d)

/-- Each line has so many line feeds beside its own. -/
def Breaks (n : Nat) : Prop :=
  ∀ flows memory, ∀ text ∈ r.texts flows memory, text.toList.count '\n' = n

variable {r}

theorem Breaks.count_bytes {n : Nat} (h : r.Breaks n) (flows : List Entry) (memory : σ) :
    (r.bytes flows memory).count lineFeed = (r.texts flows memory).length * (1 + n) := by
  have hlines (texts : List String) (hn : ∀ text ∈ texts, text.toList.count '\n' = n) :
      (texts.flatMap lineBytes).count lineFeed = texts.length * (1 + n) := by
    induction texts with
    | nil => simp
    | cons text texts ih =>
      obtain ⟨htext, htexts⟩ := List.forall_mem_cons.1 hn
      rw [List.flatMap_cons, List.count_append, count_lineBytes, htext, ih htexts,
        List.length_cons, Nat.succ_mul, Nat.add_comm]
  exact hlines _ (h flows memory)

variable (r)

theorem writeEach_sent {d : Desk σ} (accepts : d.sink.Accepts) (records : List Record) :
    ∃ summaries d', r.writeEach records d = (.ok summaries, d') ∧ d'.sink.Accepts ∧
      r.Sent (records.flatMap (·.flows))
        ⟨(summaries.map (·.linesWritten)).sum, (summaries.map (·.entriesFailed)).sum⟩ d d' := by
  induction records generalizing d with
  | nil => exact ⟨[], d, rfl, accepts, .refl d⟩
  | cons record records ih =>
    obtain ⟨s, d₁, hw, haccepts, sent⟩ := r.write_sent accepts record
    obtain ⟨summaries, d', hrest, haccepts', rest⟩ := ih haccepts
    refine ⟨s :: summaries, d', ?_, haccepts', sent.append rest⟩
    rw [writeEach, hw]
    dsimp only
    rw [hrest]
    rfl

variable {r}

theorem Breaks.writeEach {n : Nat} (h : r.Breaks n) {d : Desk σ} (accepts : d.sink.Accepts)
    (records : List Record) :
    ∃ summaries d', ∃ bytes : List UInt8, r.writeEach records d = (.ok summaries, d') ∧
      d'.sink.stored.toList = d.sink.stored.toList ++ bytes ∧
      bytes.count lineFeed = (summaries.map (·.linesWritten)).sum * (1 + n) := by
  obtain ⟨summaries, d', hw, -, sent⟩ := r.writeEach_sent accepts records
  exact ⟨summaries, d', _, hw, sent.stored, by rw [h.count_bytes, ← sent.lines]⟩

variable (r)

theorem start_of_accepts {d : Desk σ} (accepts : d.sink.Accepts) (hasConfig : Bool) :
    ∃ d', ∃ bytes : List UInt8, r.start hasConfig d = (.ok (), d') ∧ d'.sink.Accepts ∧
      d'.sink.stored.toList = d.sink.stored.toList ++ bytes ∧
      bytes.count lineFeed =
        (r.marker.map fun marker => 1 + (r.layout.marker marker).toList.count '\n').getD 0 := by
  obtain ⟨d', hstart, haccepts, -, hstored⟩ := r.start_opening accepts hasConfig
  refine ⟨d', r.opening, hstart, haccepts, hstored, ?_⟩
  rw [opening]
  cases r.marker with
  | none => rfl
  | some marker => exact count_lineBytes _

end Reporter

theorem Format.breaks_layout (format : Format) (label : String) {σ : Type}
    (resolver : Host.Resolver σ) (marker : Option String) :
    Reporter.Breaks ⟨format.layout label, resolver, marker⟩ (format.labelBreaks label) := by
  intro flows memory text htext
  obtain ⟨shown, hshown, hlaid⟩ := List.mem_filterMap.1 htext
  obtain ⟨hsource, hdest⟩ := Reporter.oneLine_shown _ hshown
  refine format.count_layout label hsource hdest ?_
  cases hentry : (format.layout label).entry shown with
  | error fault => simp [hentry, Except.toOption] at hlaid
  | ok other => simpa [hentry, Except.toOption] using hlaid

namespace Settings

/-- A report from its start on has a line feed for each line and one for its marker, beside those
that its format lets through from the label into each line and from the marker into its own.  It has
no others exactly if no line is written or the label brings none, and the marker brings none. -/
theorem count_report (s : Settings) {σ : Type} (service : Host.NameService σ) (hasConfig : Bool)
    (records : List Record) {d : Desk (Host.NameCache × σ)} (accepts : d.sink.Accepts) :
    let r := s.reporter service
    let markers := if s.startupMarker.isSome then 1 else 0
    let labelBreaks := s.format.labelBreaks s.label
    let markerBreaks := (s.startupMarker.map fun marker => s.format.markerBreaks marker).getD 0
    ∃ d₀ summaries d', ∃ bytes : List UInt8,
      r.start hasConfig d = (.ok (), d₀) ∧ r.writeEach records d₀ = (.ok summaries, d') ∧
      d'.sink.stored.toList = d.sink.stored.toList ++ bytes ∧
      let lines := (summaries.map (·.linesWritten)).sum
      bytes.count lineFeed = lines * (1 + labelBreaks) + markers + markerBreaks ∧
      (bytes.count lineFeed = lines + markers ↔
        (lines = 0 ∨ labelBreaks = 0) ∧ markerBreaks = 0) := by
  intro r markers labelBreaks markerBreaks
  have hbreaks : r.Breaks labelBreaks := s.format.breaks_layout s.label _ _
  obtain ⟨d₀, front, hstart, haccepts, hfront, hmarker⟩ := r.start_of_accepts accepts hasConfig
  obtain ⟨summaries, d', back, hwrite, hback, hlines⟩ := hbreaks.writeEach haccepts records
  have hmarkers : front.count lineFeed = markers + markerBreaks := by
    rw [hmarker]
    simp only [r, reporter, markers, markerBreaks]
    cases s.startupMarker with
    | none => rfl
    | some marker => simp [Format.count_marker]
  refine ⟨d₀, summaries, d', front ++ back, hstart, hwrite,
    by rw [hback, hfront, List.append_assoc], ?_⟩
  intro lines
  have hall : (front ++ back).count lineFeed =
      lines * (1 + labelBreaks) + markers + markerBreaks := by
    rw [List.count_append, hmarkers, hlines, Nat.add_comm, ← Nat.add_assoc]
  refine ⟨hall, ?_⟩
  rw [hall, Nat.mul_add, Nat.mul_one, ← Nat.mul_eq_zero]
  omega

theorem count_report_escaped :
    let s : Settings :=
      { label := "a\nb", format := .logfmt, resolve := false, startupMarker := some "c\n" }
    let service : Host.NameService Unit := fun _ memory => (.late, memory)
    let r := s.reporter service
    let records : List Record := [⟨[{ sourceHost := "e" }]⟩, ⟨[]⟩]
    let d : Desk (Host.NameCache × Unit) := { memory := ({}, ()) }
    d.sink.Accepts ∧ ∃ d₀ summaries d',
      r.start true d = (.ok (), d₀) ∧ r.writeEach records d₀ = (.ok summaries, d') ∧
      d'.sink.stored.toList.count lineFeed = (summaries.map (·.linesWritten)).sum + 1 := by
  intro s service r records d
  obtain ⟨d₀, summaries, d', bytes, hstart, hwrite, hstored, hcount, -⟩ :=
    count_report s service true records (d := d) Sink.accepts_default
  refine ⟨Sink.accepts_default, d₀, summaries, d', hstart, hwrite, ?_⟩
  rw [hstored]
  simpa [s, d, Format.labelBreaks, Format.markerBreaks] using hcount

/-- A document can give a label that breaks the line of a flow in two. -/
theorem count_report_broken :
    let document : Yaml.Node := .mapping
      [(.scalar (.text "label".toList), .scalar (.text "a\nb".toList)),
        (.scalar (.text "resolve".toList), .scalar (.boolean false))]
    let service : Host.NameService Unit := fun _ memory => (.late, memory)
    let d : Desk (Host.NameCache × Unit) := { memory := ({}, ()) }
    ∃ s : Settings, (ofNode document).toOption = some s ∧ s.startupMarker = some defaultMarker ∧
      let r := s.reporter service
      let flow : Entry := { sourceHost := "e", destHost := "f" }
      let (answer, d') := r.writeEach [⟨[flow]⟩] (r.start true d).2
      (answer.toOption.map fun summaries => (summaries.map (·.linesWritten)).sum) = some 1 ∧
        d'.sink.stored.toList.count lineFeed = 1 + 1 + 1 := by
  refine ⟨{ label := "a\nb", resolve := false }, ?_⟩
  decide +kernel

end Settings

end FlowLines
