import FlowLines.Proofs.Layout.Outside
import FlowLines.Proofs.Reporter.Lines
import FlowLines.Proofs.Reporter.Raw
import FlowLines.Proofs.Text.Utf8

/-! Which control characters reach a sink.  Names of hosts have none left, so that all of them are
from next hops. -/

namespace FlowLines

open FlowLines.Flow (Entry Record)
open FlowLines.Text (Unseen isControl)

namespace Reporter

variable {σ : Type} (r : Reporter σ)

theorem clean_shown {flows : List Entry} {memory : σ} {s : Shown} (h : s ∈ r.shown flows memory) :
    s.source.toList.any isControl = false ∧ s.dest.toList.any isControl = false := by
  obtain ⟨⟨t, hsource⟩, u, hdest⟩ := r.exists_reveal_shown h
  rw [hsource, hdest, String.toList_ofList, String.toList_ofList]
  exact ⟨Text.any_isControl_reveal _, Text.any_isControl_reveal _⟩

end Reporter

/-- The control characters of the next hop that the line of a flow holds. -/
def Format.leaked (format : Format) (flow : Entry) : List Char :=
  match format with
  | .line => []
  | format => flow.hop.filter fun c => isControl c && format.keeps c

theorem Format.filter_isControl_entry (format : Format) {label : String}
    (hlabel : label.toList.any isControl = false) {s : Shown}
    (hs : s.source.toList.any isControl = false ∧ s.dest.toList.any isControl = false) :
    ∃ text, (format.layout label).entry s = .ok text ∧
      text.toList.filter isControl = format.leaked s.flow := by
  obtain ⟨text, hlaid, hfilter⟩ := format.filter_entry Text.unseen_isControl label s
  refine ⟨text, hlaid, hfilter.trans ?_⟩
  have hclean {t : List Char} (h : t.any isControl = false) :
      (t.filter fun c => isControl c && format.keeps c) = [] := by
    rw [List.filter_eq_nil_iff]
    intro c hc
    rw [Bool.eq_false_iff.2 (List.any_eq_false.1 h c hc), Bool.false_and]
    exact Bool.false_ne_true
  cases format <;>
    simp only [outside, leaked, List.filter_append, hclean hs.1, hclean hs.2, hclean hlabel,
      List.nil_append]

theorem exists_map_ok {ε α β : Type} {f : α → Except ε β} {P : α → β → Prop} {l : List α}
    (h : ∀ a ∈ l, ∃ b, f a = .ok b ∧ P a b) :
    ∃ bs : List β, l.map f = bs.map .ok ∧ List.Forall₂ P l bs := by
  induction l with
  | nil => exact ⟨[], rfl, .nil⟩
  | cons a l ih =>
    obtain ⟨b, hb, hP⟩ := h a List.mem_cons_self
    obtain ⟨bs, hbs, hall⟩ := ih fun c hc => h c (List.mem_cons_of_mem a hc)
    exact ⟨b :: bs, by rw [List.map_cons, List.map_cons, hb, hbs], .cons hP hall⟩

theorem Reporter.write_of_laid {σ : Type} (r : Reporter σ) {record : Record} {d : Desk σ}
    (accepts : d.sink.Accepts) {P : Shown → String → Prop}
    (h : ∀ s ∈ r.shown record.flows d.memory, ∃ text, r.layout.entry s = .ok text ∧ P s text) :
    ∃ summary d', ∃ texts : List String, r.write record d = (.ok summary, d') ∧
      d'.sink.stored.toList = d.sink.stored.toList ++
        Text.Utf8.encode (texts.flatMap fun text => text.toList ++ ['\n']) ∧
      List.Forall₂ P (r.shown record.flows d.memory) texts := by
  obtain ⟨texts, hlaid, hall⟩ := exists_map_ok h
  have htexts : r.texts record.flows d.memory = texts := r.texts_of_laid hlaid
  obtain ⟨summary, d', hw, -, hsink⟩ := r.write_of_accepts accepts record
  rw [Reporter.bytes, htexts, flatMap_lineBytes_eq_encode] at hsink
  exact ⟨summary, d', texts, hw, hsink, hall⟩

theorem forall_mem_iff_of_forall₂ {α β : Type} {R : α → β → Prop} {P : α → Prop} {Q : β → Prop}
    (hR : ∀ a b, R a b → (Q b ↔ P a)) {l : List α} {l' : List β} (h : List.Forall₂ R l l') :
    (∀ b ∈ l', Q b) ↔ ∀ a ∈ l, P a := by
  induction h with
  | nil => simp
  | cons hab _ ih => rw [List.forall_mem_cons, List.forall_mem_cons, hR _ _ hab, ih]

/-- The control characters in the lines of a record are those of the next hops that the format
keeps, and no others: every other text is written without them.  So no line holds any exactly if
the format keeps none. -/
theorem Format.write_controls (format : Format) {label : String}
    (hlabel : label.toList.any isControl = false) {σ : Type} (resolver : Host.Resolver σ)
    (marker : Option String) (record : Record) {d : Desk σ} (accepts : d.sink.Accepts) :
    let r : Reporter σ := ⟨format.layout label, resolver, marker⟩
    ∃ summary d', ∃ bytes : List UInt8, ∃ texts : List String,
      r.write record d = (.ok summary, d') ∧
      d'.sink.stored.toList = d.sink.stored.toList ++ bytes ∧
      Text.Utf8.decode bytes = .ok (texts.flatMap fun text => text.toList ++ ['\n']) ∧
      List.Forall₂ (fun flow text => text.toList.filter isControl = format.leaked flow)
        record.flows texts ∧
      ((∀ text ∈ texts, text.toList.any isControl = false) ↔
        ∀ flow ∈ record.flows, format.leaked flow = []) := by
  intro r
  have hlaid : ∀ s ∈ r.shown record.flows d.memory, ∃ text, r.layout.entry s = .ok text ∧
      text.toList.filter isControl = format.leaked s.flow :=
    fun s hs => format.filter_isControl_entry hlabel (r.clean_shown hs)
  obtain ⟨summary, d', texts, hw, hsink, hall⟩ := r.write_of_laid accepts hlaid
  have hflows : List.Forall₂ (fun flow text => text.toList.filter isControl = format.leaked flow)
      record.flows texts := by
    rw [← r.flows_shown record.flows d.memory, List.forall₂_map_left_iff]
    exact hall
  refine ⟨summary, d', _, texts, hw, hsink, Text.Utf8.decode_encode _, hflows, ?_⟩
  refine forall_mem_iff_of_forall₂ (fun flow text heq => ?_) hflows
  rw [← heq, List.filter_eq_nil_iff, List.any_eq_false]

theorem Format.write_controls_delete :
    let r : Reporter Unit := ⟨Format.jsonLines.layout "x", Host.Resolver.raw, none⟩
    let record : Record := ⟨[{ nextHop := some "a\x7f\tb" }]⟩
    "x".toList.any isControl = false ∧ ({} : Sink).Accepts ∧
    ∃ summary d' text, r.write record { memory := () } = (.ok summary, d') ∧
      Text.Utf8.decode d'.sink.stored.toList = .ok (text ++ ['\n']) ∧
      text.filter isControl = ['\x7f'] := by
  intro r record
  have hlabel : "x".toList.any isControl = false := by decide
  let d : Desk Unit := { memory := () }
  have accepts : d.sink.Accepts := Sink.accepts_default
  have hempty : d.sink.stored.toList = [] := rfl
  obtain ⟨summary, d', bytes, texts, hw, hstored, hdecode, hall, -⟩ :=
    Format.jsonLines.write_controls hlabel Host.Resolver.raw none record accepts
  obtain ⟨text, _, htext, hnone, rfl⟩ := List.forall₂_cons_left_iff.1 hall
  obtain rfl := List.forall₂_nil_left_iff.1 hnone
  refine ⟨hlabel, accepts, summary, d', text.toList, hw, ?_, ?_⟩
  · rw [hstored, hempty, List.nil_append, hdecode, List.flatMap_singleton]
  · rw [htext]
    decide

/-- A tab in a next hop is a reason for quotes, and between them it stands as it is. -/
theorem Format.write_tab :
    let line := ["\x7b\"flows\":[\x7b\"source_host\":\"a\",\"source_port\":1,\"dest_host\":\"b\",",
      "\"dest_port\":2,\"bytes\":3,\"next_hop\":\"a\\tb\"\x7d]\x7d"].flatMap String.toList
    let r : Reporter Unit := ⟨Format.logfmt.layout defaultLabel, Host.Resolver.raw, none⟩
    defaultLabel.toList.any isControl = false ∧
    ∃ record summary d' text, Record.ofLine line = .ok record ∧
      r.write record { memory := () } = (.ok summary, d') ∧
      Text.Utf8.decode d'.sink.stored.toList = .ok (text ++ ['\n']) ∧
      '\t' ∈ text ∧ isControl '\t' := by
  intro line r
  have hlabel : defaultLabel.toList.any isControl = false := by decide
  let record : Record := ⟨[{ Entry.new "a" 1 "b" 2 3 with nextHop := some "a\tb" }]⟩
  have hread : Record.ofLine line = .ok record := eq_ok_of_toOption (by decide +kernel)
  let d : Desk Unit := { memory := () }
  have accepts : d.sink.Accepts := Sink.accepts_default
  have hempty : d.sink.stored.toList = [] := rfl
  have hlaid : ∀ s ∈ r.shown record.flows d.memory, ∃ text, r.layout.entry s = .ok text ∧
      text.toList.filter isControl = Format.logfmt.leaked s.flow :=
    fun s hs => Format.logfmt.filter_isControl_entry hlabel (r.clean_shown hs)
  obtain ⟨summary, d', texts, hw, hstored, hall⟩ := r.write_of_laid accepts hlaid
  obtain ⟨text, _, htext, hnone, rfl⟩ := List.forall₂_cons_left_iff.1 hall
  obtain rfl := List.forall₂_nil_left_iff.1 hnone
  refine ⟨hlabel, record, summary, d', text.toList, hread, hw, ?_, ?_, by decide⟩
  · rw [hstored, hempty, List.nil_append, Text.Utf8.decode_encode, List.flatMap_singleton]
  · have hleaked : '\t' ∈ text.toList.filter isControl := by
      rw [htext]
      decide
    exact (List.mem_filter.1 hleaked).1

end FlowLines
