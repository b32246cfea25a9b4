import FlowLines.Flow.Decode
import FlowLines.Proofs.Json.Yields
import FlowLines.Proofs.Time.Instant

/-! The instants of a flow that was read lie in the years that time stamps reach.  All other
fields are free. -/

namespace FlowLines.Flow

open FlowLines.Json

def Entry.value (e : Entry) : (f : Field) → f.Value
  | .sourceHost => e.sourceHost
  | .sourcePort => e.sourcePort
  | .destHost => e.destHost
  | .destPort => e.destPort
  | .byteCount => e.byteCount
  | .nextHop => e.nextHop
  | .packetCount => e.packetCount
  | .protocol => e.protocol
  | .tcpFlags => e.tcpFlags
  | .tos => e.tos
  | .sourceAs => e.sourceAs
  | .destAs => e.destAs
  | .snmpIn => e.snmpIn
  | .snmpOut => e.snmpOut
  | .firstSeen => e.firstSeen
  | .lastSeen => e.lastSeen

def Field.Sound : (f : Field) → f.Value → Prop
  | .firstSeen, v | .lastSeen, v => ∀ i : Time.Instant, v = some i → i.Valid
  | _, _ => True

def Entry.Sound (e : Entry) : Prop := ∀ f : Field, f.Sound (e.value f)

def Record.Sound (r : Record) : Prop := ∀ e ∈ r.flows, e.Sound

namespace Draft

def Sound (d : Draft) : Prop := ∀ (f : Field) (v : f.Value), d f = some v → f.Sound v

theorem toEntry_eq_ok_iff {d : Draft} {e : Entry} :
    d.toEntry = .ok e ↔ ∀ f, d.get f = .ok (e.value f) := by
  constructor
  · intro h
    obtain ⟨sourceHost, h₁, h⟩ := bind_eq_ok h
    obtain ⟨sourcePort, h₂, h⟩ := bind_eq_ok h
    obtain ⟨destHost, h₃, h⟩ := bind_eq_ok h
    obtain ⟨destPort, h₄, h⟩ := bind_eq_ok h
    obtain ⟨byteCount, h₅, h⟩ := bind_eq_ok h
    obtain ⟨nextHop, h₆, h⟩ := bind_eq_ok h
    obtain ⟨packetCount, h₇, h⟩ := bind_eq_ok h
    obtain ⟨protocol, h₈, h⟩ := bind_eq_ok h
    obtain ⟨tcpFlags, h₉, h⟩ := bind_eq_ok h
    obtain ⟨tos, h₁₀, h⟩ := bind_eq_ok h
    obtain ⟨sourceAs, h₁₁, h⟩ := bind_eq_ok h
    obtain ⟨destAs, h₁₂, h⟩ := bind_eq_ok h
    obtain ⟨snmpIn, h₁₃, h⟩ := bind_eq_ok h
    obtain ⟨snmpOut, h₁₄, h⟩ := bind_eq_ok h
    obtain ⟨firstSeen, h₁₅, h⟩ := bind_eq_ok h
    obtain ⟨lastSeen, h₁₆, h⟩ := bind_eq_ok h
    cases h
    intro f
    cases f <;> assumption
  · intro h
    simp only [toEntry, h, ok_bind]
    rfl

end Draft

theorem Field.sound_of_absent {f : Field} {v : f.Value} (h : f.absent? = some v) : f.Sound v := by
  cases f <;> cases h <;> first | trivial | (intro i hi; cases hi)

theorem Draft.Sound.toEntry {d : Draft} {e : Entry} (hd : d.Sound) (h : d.toEntry = .ok e) :
    e.Sound := by
  intro f
  have hf := toEntry_eq_ok_iff.1 h f
  unfold Draft.get at hf
  split at hf
  · next v hv =>
    cases hf
    exact hd f _ hv
  · next v _ hv =>
    cases hf
    exact Field.sound_of_absent hv
  · cases hf

theorem Draft.Sound.set {d : Draft} (hd : d.Sound) {f : Field} {v : f.Value} (hv : f.Sound v) :
    Sound (d.set f v) := by
  intro g w hw
  by_cases h : f = g
  · cases h
    rw [FlowLines.Draft.set_same] at hw
    cases hw
    exact hv
  · rw [FlowLines.Draft.set_of_ne d v h] at hw
    exact hd g w hw

theorem yields_readInstant : Yields readInstant Time.Instant.Valid := by
  intro s i r h
  obtain ⟨⟨t, r'⟩, -, h⟩ := bind_eq_ok h
  simp only at h
  cases hp : Time.Instant.parse t with
  | error f =>
    rw [hp] at h
    cases h
  | ok j =>
    rw [hp] at h
    cases h
    exact Time.Instant.parse_valid hp

theorem Field.yields_read (f : Field) : Yields f.read f.Sound := by
  cases f with
  | firstSeen => exact yields_readInstant.optional
  | lastSeen => exact yields_readInstant.optional
  | _ => exact yields_trivial _

theorem yields_entryMembers {key : List Char} {d : Draft} {read : Reader Draft} (hd : d.Sound)
    (h : entryMembers key d = .ok read) : Yields read Draft.Sound := by
  unfold entryMembers at h
  split at h
  · cases h
    exact yields_passing hd
  · next f _ =>
    split at h
    · cases h
    · cases h
      exact f.yields_read.map fun v hv => hd.set hv

theorem yields_readFields (fs : List Field) : ∀ (position : Nat) (d : Draft), d.Sound →
    Yields (readFields position fs d) Draft.Sound := by
  induction fs with
  | nil =>
    intro position d hd s d' r hs
    obtain ⟨r', -, heq⟩ := map_eq_ok hs
    cases heq
    exact hd
  | cons f fs ih =>
    intro position d hd s d' r hs
    obtain ⟨next, -, hs⟩ := bind_eq_ok hs
    cases next with
    | member r' =>
      obtain ⟨⟨v, r₁⟩, hv, hs⟩ := bind_eq_ok hs
      exact ih (position + 1) _ (hd.set (f.yields_read _ _ _ hv)) _ _ _ hs
    | done r' =>
      simp only at hs
      split at hs
      · cases hs
        exact hd
      · cases hs

theorem sound_empty : Draft.Sound FlowLines.Draft.empty := by
  intro f v h
  cases h

theorem yields_finish {read : Reader Draft} (h : Yields read Draft.Sound) :
    Yields (fun s => do
      let (d, r) ← read s
      match d.toEntry with
      | .ok e => .ok (e, r)
      | .error cause => .error ⟨cause, r, 0⟩) Entry.Sound := by
  intro s e r hs
  obtain ⟨⟨d, r'⟩, hd, hs⟩ := bind_eq_ok hs
  simp only at hs
  cases he : d.toEntry with
  | error cause =>
    rw [he] at hs
    cases hs
  | ok e' =>
    rw [he] at hs
    cases hs
    exact (h _ _ _ hd).toEntry he

theorem yields_readEntry : Yields readEntry Entry.Sound := by
  intro s e r hs
  unfold readEntry at hs
  split at hs
  · cases hs
  · exact yields_finish (yields_readFields Field.all 0 _ sound_empty) _ _ _ hs
  · exact yields_finish (yields_readMembers sound_empty fun _ _ _ => yields_entryMembers) _ _ _ hs
  · cases hs

def AllSound (flows : Option (List Entry)) : Prop := ∀ es, flows = some es → ∀ e ∈ es, e.Sound

theorem yields_recordMembers {key : List Char} {flows : Option (List Entry)}
    {read : Reader (Option (List Entry))} (hf : AllSound flows)
    (h : recordMembers key flows = .ok read) : Yields read AllSound := by
  unfold recordMembers at h
  split at h
  · split at h
    · cases h
    · cases h
      apply Yields.map (Q := AllSound) yields_readEntry.list
      intro es hes es' heq
      cases heq
      exact hes
  · cases h
    exact yields_passing hf

theorem yields_readRecord : Yields readRecord Record.Sound := by
  intro s record r hs
  unfold readRecord at hs
  split at hs
  · cases hs
  · obtain ⟨next, -, hs⟩ := bind_eq_ok hs
    cases next with
    | done r' =>
      cases hs
      intro e he
      cases he
    | member r' =>
      obtain ⟨⟨flows, r₁⟩, hflows, hs⟩ := bind_eq_ok hs
      obtain ⟨r₂, -, heq⟩ := map_eq_ok hs
      cases heq
      exact yields_readEntry.list _ _ _ hflows
  · obtain ⟨⟨flows, r'⟩, hflows, heq⟩ := map_eq_ok hs
    have hnone : AllSound none := by
      intro es h
      cases h
    have hall : AllSound flows :=
      yields_readMembers hnone (fun _ _ _ => yields_recordMembers) _ _ _ hflows
    cases heq
    cases flows with
    | none =>
      intro e he
      cases he
    | some es => exact hall es rfl
  · cases hs

theorem Record.sound_of_ofLine {line : List Char} {r : Record} (h : Record.ofLine line = .ok r) :
    r.Sound := by
  unfold Record.ofLine readAll at h
  split at h
  · cases h
  · next hr =>
    split at h
    · cases h
      exact yields_readRecord _ _ _ hr
    · cases h

end FlowLines.Flow
