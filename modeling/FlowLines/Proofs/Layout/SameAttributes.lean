import FlowLines.Proofs.Layout.JsonLines
import FlowLines.Proofs.Layout.Logfmt
import FlowLines.Proofs.Layout.Xml
import Mathlib.Data.List.Forall2

/-! All structured formats tell the same attributes of a flow, in the same order and with the same
values.  Both tables of the attributes go through one list of fields. -/

namespace FlowLines.Flow

open FlowLines.Json (Scalar)
open FlowLines.Text (decimal)
open FlowLines.Time (Instant)

def Field.optional : List Field :=
  [.nextHop, .packetCount, .protocol, .tcpFlags, .tos, .sourceAs, .destAs, .snmpIn, .snmpOut,
    .firstSeen, .lastSeen]

def Field.text? : (f : Field) → f.Value → Option String
  | .sourceHost, _ | .destHost, _ | .sourcePort, _ | .destPort, _ | .byteCount, _ => none
  | .nextHop, v => v
  | .packetCount, v => Option.map (fun n : UInt64 => String.ofList (decimal n.toNat)) v
  | .protocol, v | .tcpFlags, v | .tos, v =>
    Option.map (fun n : UInt8 => String.ofList (decimal n.toNat)) v
  | .sourceAs, v | .destAs, v | .snmpIn, v | .snmpOut, v =>
    Option.map (fun n : UInt16 => String.ofList (decimal n.toNat)) v
  | .firstSeen, v | .lastSeen, v =>
    Option.map (fun i : Instant => String.ofList (i.write .digits)) v

def Entry.attribute? (e : Entry) (f : Field) : Option (String × String) :=
  (f.text? (e.value f)).map (f.name, ·)

theorem Entry.attributes_eq (e : Entry) :
    e.attributes = Field.optional.filterMap e.attribute? := by
  simp only [Field.optional, filterMap_cons_toList, List.filterMap_nil, List.append_nil]
  simp only [Entry.attributes, Entry.attribute?, Field.text?, Entry.value, Field.name,
    Option.map_map, List.append_assoc, Function.comp_def, String.ofList_toList]

def Entry.presence (e : Entry) : List (String × Bool) :=
  [("next_hop", e.nextHop.isSome), ("packet_count", e.packetCount.isSome),
    ("protocol", e.protocol.isSome), ("tcp_flags", e.tcpFlags.isSome), ("tos", e.tos.isSome),
    ("source_as", e.sourceAs.isSome), ("dest_as", e.destAs.isSome), ("snmp_in", e.snmpIn.isSome),
    ("snmp_out", e.snmpOut.isSome), ("first_seen", e.firstSeen.isSome),
    ("last_seen", e.lastSeen.isSome)]

theorem Entry.presence_eq (e : Entry) :
    e.presence = Field.optional.map fun f => (f.name, (f.text? (e.value f)).isSome) := by
  simp only [presence, Field.optional, List.map_cons, List.map_nil, Field.text?, Entry.value,
    Field.name, Option.isSome_map]

theorem map_fst_filterMap {α κ β : Type} (name : α → κ) (g : α → Option β) (l : List α) :
    (l.filterMap fun a => (g a).map (name a, ·)).map Prod.fst =
      ((l.map fun a => (name a, (g a).isSome)).filter Prod.snd).map Prod.fst := by
  induction l with
  | nil => rfl
  | cons a l ih => cases h : g a <;> simp [h, ih]

theorem Entry.names_attributes_eq (e : Entry) :
    e.attributes.map Prod.fst = (e.presence.filter Prod.snd).map Prod.fst := by
  rw [attributes_eq, presence_eq]
  exact map_fst_filterMap Field.name (fun f => f.text? (e.value f)) Field.optional

def countNames : List String :=
  ["packet_count", "protocol", "tcp_flags", "tos", "source_as", "dest_as", "snmp_in", "snmp_out"]

/-- A value in JSON and the text of an attribute say the same under a name. -/
inductive SameValue : String → Scalar → String → Prop
  | hop (s : String) : SameValue "next_hop" (.text s) s
  | count {name : String} (n : Nat) : name ∈ countNames →
      SameValue name (.natural n) (String.ofList (decimal n))
  | seen {name text text' : String} {i : Instant} : name ∈ ["first_seen", "last_seen"] →
      Instant.parse text.toList = .ok i → Instant.parse text'.toList = .ok i →
      SameValue name (.text text) text'

def Agrees (m : String × Scalar) (a : String × String) : Prop :=
  m.1 = a.1 ∧ SameValue a.1 m.2 a.2

theorem Field.agrees {f : Field} (hf : f ∈ Field.optional) {v : f.Value} (hv : f.Sound v) :
    (f.scalar? v = none ∧ f.text? v = none) ∨
      ∃ x text, f.scalar? v = some x ∧ f.text? v = some text ∧ SameValue f.name x text := by
  cases f with
  | sourceHost | sourcePort | destHost | destPort | byteCount => simp [optional] at hf
  | nextHop =>
    cases v with
    | none => exact .inl ⟨rfl, rfl⟩
    | some s => exact .inr ⟨.text s, s, rfl, rfl, .hop s⟩
  | firstSeen | lastSeen =>
    cases v with
    | none => exact .inl ⟨rfl, rfl⟩
    | some i =>
      have hvalid : i.Valid := hv i rfl
      have hparse (zero : Time.ZeroOffset) :
          Instant.parse (String.ofList (i.write zero)).toList = .ok i := by
        rw [String.toList_ofList]
        exact Instant.parse_write hvalid
      exact .inr ⟨_, _, rfl, rfl, .seen (by decide) (hparse .letter) (hparse .digits)⟩
  | _ =>
    cases v with
    | none => exact .inl ⟨rfl, rfl⟩
    | some n => exact .inr ⟨_, _, rfl, rfl, .count _ (by decide)⟩

theorem decimal_injective {n k : Nat} (h : String.ofList (decimal n) = String.ofList (decimal k)) :
    n = k := by
  have hdigits := congrArg (fun s : String => Text.ofDigits s.toList) h
  simpa only [String.toList_ofList, Text.ofDigits_decimal] using hdigits

theorem Field.text?_injective {f : Field} (hf : f ∈ Field.optional) {v w : f.Value}
    (hv : f.Sound v) (hw : f.Sound w) (h : f.text? v = f.text? w) : v = w := by
  cases f with
  | sourceHost | sourcePort | destHost | destPort | byteCount => simp [optional] at hf
  | nextHop => exact h
  | packetCount =>
    refine Option.map_injective (fun n k heq => ?_) h
    exact UInt64.toNat_inj.1 (decimal_injective heq)
  | protocol | tcpFlags | tos =>
    refine Option.map_injective (fun n k heq => ?_) h
    exact UInt8.toNat_inj.1 (decimal_injective heq)
  | sourceAs | destAs | snmpIn | snmpOut =>
    refine Option.map_injective (fun n k heq => ?_) h
    exact UInt16.toNat_inj.1 (decimal_injective heq)
  | firstSeen | lastSeen =>
    cases v with
    | none =>
      cases w with
      | none => rfl
      | some j => cases h
    | some i =>
      cases w with
      | none => cases h
      | some j =>
        have htext := String.ofList_inj.1 (Option.some.inj h)
        have hparse : Instant.parse (i.write .digits) = .ok i := Instant.parse_write (hv i rfl)
        rw [htext, Instant.parse_write (hw j rfl)] at hparse
        rw [Except.ok.inj hparse]

theorem find?_named {α κ β : Type} [DecidableEq κ] {name : α → κ} {g : α → Option β} {l : List α}
    (hnames : (l.map name).Nodup) {a : α} (ha : a ∈ l) :
    (l.filterMap fun b => (g b).map (name b, ·)).find? (·.1 = name a) =
      (g a).map (name a, ·) := by
  induction l with
  | nil => cases ha
  | cons b l ih =>
    rw [List.map_cons, List.nodup_cons] at hnames
    have hhead : ((g b).map (name b, ·)).toList.find? (·.1 = name a) =
        if name b = name a then (g b).map (name b, ·) else none := by
      cases g b <;> simp [List.find?_singleton]
    rw [filterMap_cons_toList, List.find?_append, hhead]
    rcases List.mem_cons.1 ha with rfl | ha
    · have hlater : (l.filterMap fun b => (g b).map (name b, ·)).find? (·.1 = name a) = none := by
        rw [List.find?_eq_none]
        intro pair hpair heq
        obtain ⟨c, hc, hvalue⟩ := List.mem_filterMap.1 hpair
        obtain ⟨v, -, rfl⟩ := Option.map_eq_some_iff.1 hvalue
        exact hnames.1 (List.mem_map.2 ⟨c, hc, by simpa using heq⟩)
      rw [if_pos rfl, hlater, Option.or_none]
    · have hne : name b ≠ name a := fun heq => hnames.1 (heq ▸ List.mem_map_of_mem ha)
      rw [if_neg hne, Option.none_or, ih hnames.2 ha]

theorem Entry.value_eq_of_attributes_eq {e e' : Entry} (he : e.Sound) (he' : e'.Sound)
    (h : e.attributes = e'.attributes) : ∀ f ∈ Field.optional, e.value f = e'.value f := by
  intro f hf
  rw [attributes_eq, attributes_eq] at h
  have hnames : (Field.optional.map Field.name).Nodup := by decide
  have hpair : e.attribute? f = e'.attribute? f := by
    have hfound (e : Entry) : (Field.optional.filterMap e.attribute?).find? (·.1 = f.name) =
        e.attribute? f := find?_named hnames hf
    rw [← hfound e, h, hfound e']
  have htext : f.text? (e.value f) = f.text? (e'.value f) :=
    Option.map_injective (fun _ _ heq => (Prod.mk.inj heq).2) hpair
  exact Field.text?_injective hf (he f) (he' f) htext

theorem Entry.members_optional (e : Entry) : e.members =
    [("source_host", .text e.sourceHost), ("source_port", .natural e.sourcePort.toNat),
      ("dest_host", .text e.destHost), ("dest_port", .natural e.destPort.toNat),
      ("byte_count", .natural e.byteCount.toNat)] ++ Field.optional.filterMap e.member? := by
  rw [members_eq]
  rfl

theorem Entry.agrees {e : Entry} (he : e.Sound) :
    List.Forall₂ Agrees (Field.optional.filterMap e.member?) e.attributes := by
  rw [attributes_eq]
  have hall : ∀ fs : List Field, (∀ f ∈ fs, f ∈ Field.optional) →
      List.Forall₂ Agrees (fs.filterMap e.member?) (fs.filterMap e.attribute?) := by
    intro fs
    induction fs with
    | nil => exact fun _ => .nil
    | cons f fs ih =>
      intro hfs
      obtain ⟨hf, hfs⟩ := List.forall_mem_cons.1 hfs
      obtain ⟨hnone, hnone'⟩ | ⟨x, text, hx, htext, hsame⟩ := Field.agrees hf (he f)
      · rw [List.filterMap_cons_none (by rw [member?, hnone]; rfl),
          List.filterMap_cons_none (by rw [attribute?, hnone']; rfl)]
        exact ih hfs
      · rw [List.filterMap_cons_some (by rw [member?, hx]; rfl),
          List.filterMap_cons_some (by rw [attribute?, htext]; rfl)]
        exact .cons ⟨rfl, hsame⟩ (ih hfs)
  exact hall Field.optional fun f hf => hf

end FlowLines.Flow

namespace FlowLines.Json

def readScalar : Reader Scalar := fun s =>
  match skipSpace s with
  | '"' :: _ => mapped (Scalar.text ∘ String.ofList) (readText "a string") s
  | _ => mapped Scalar.natural (readNatural UInt64.size "u64") s

def anyMembers : Members Object := fun key known =>
  .ok (mapped (fun v => known ++ [(String.ofList key, v)]) readScalar)

def readObject : Reader Object := fun s =>
  match skipSpace s with
  | '{' :: r => readMembers anyMembers [] r
  | s => .error (mismatch "a map" s)

def Scalar.Fits : Scalar → Prop
  | .text _ => True
  | .natural n => n < UInt64.size

theorem takes_readScalar {v : Scalar} (h : v.Fits) : Takes readScalar v.write v where
  starts := starts_write v
  reads rest hr := by
    have hspace := (starts_write v).skipSpace rest
    unfold readScalar
    rw [hspace]
    cases v with
    | text s =>
      have htake := (takes_readText "a string" s.toList).map (Scalar.text ∘ String.ofList)
      have hread := htake.reads rest hr
      rw [Function.comp_apply, String.ofList_toList] at hread
      split
      · exact hread
      · next hquote => exact absurd (writeString_append s.toList rest) (hquote _)
    | natural n =>
      have hread := ((takes_readNatural "u64" h (Nat.le_refl _)).map Scalar.natural).reads rest hr
      split
      · next heq => exact absurd (Text.isDigit_of_decimal_append_eq_cons heq) (by decide)
      · exact hread

theorem absorbs_any {o : Object} (h : ∀ m ∈ o, m.2.Fits) (known : Object) :
    Absorbs anyMembers (pairs o) known (known ++ o) := by
  induction o generalizing known with
  | nil =>
    rw [List.append_nil]
    exact .nil known
  | cons m o ih =>
    obtain ⟨hm, ho⟩ := List.forall_mem_cons.1 h
    have htake := (takes_readScalar hm).map fun v => known ++ [(String.ofList m.1.toList, v)]
    have hrest := ih ho (known ++ [m])
    rw [List.append_assoc] at hrest
    rw [String.ofList_toList] at htake
    refine .cons rfl ?_ hrest
    rw [String.ofList_toList]
    exact htake

theorem readObject_writeObject {o : Object} (h : ∀ m ∈ o, m.2.Fits) :
    readAll readObject (writeObject o) = .ok o := by
  have hspace (r : List Char) : skipSpace ('{' :: r) = '{' :: r := rfl
  have hread : readObject (writeObject o) = .ok (o, []) := by
    rw [← List.append_nil (writeObject _), writeObject_append, readObject, hspace]
    exact readMembers_absorbs (absorbs_any h []) []
  rw [readAll, hread]
  rfl

end FlowLines.Json

namespace FlowLines.Layout

open FlowLines.Json FlowLines.Flow

def after {β : Type} (name : String) (l : List (String × β)) : List (String × β) :=
  (l.dropWhile (·.1 ≠ name)).tail

theorem fits_scalar {f : Field} {v : f.Value} {x : Scalar} (h : f.scalar? v = some x) :
    x.Fits := by
  have hbyte (n : UInt8) : (Scalar.natural n.toNat).Fits :=
    Nat.lt_trans n.toNat_lt (by decide)
  have hshort (n : UInt16) : (Scalar.natural n.toNat).Fits :=
    Nat.lt_trans n.toNat_lt (by decide)
  have hcount (n : UInt64) : (Scalar.natural n.toNat).Fits := n.toNat_lt
  cases f with
  | sourceHost | destHost =>
    cases h
    trivial
  | sourcePort | destPort =>
    cases h
    exact hshort v
  | byteCount =>
    cases h
    exact hcount v
  | nextHop | firstSeen | lastSeen =>
    obtain ⟨_, -, rfl⟩ := Option.map_eq_some_iff.1 h
    trivial
  | packetCount =>
    obtain ⟨n, -, rfl⟩ := Option.map_eq_some_iff.1 h
    exact hcount n
  | protocol | tcpFlags | tos =>
    obtain ⟨n, -, rfl⟩ := Option.map_eq_some_iff.1 h
    exact hbyte n
  | sourceAs | destAs | snmpIn | snmpOut =>
    obtain ⟨n, -, rfl⟩ := Option.map_eq_some_iff.1 h
    exact hshort n

theorem fits_members (label : String) (s : Shown) : ∀ m ∈ JsonLines.members label s, m.2.Fits := by
  intro m hm
  rcases List.mem_cons.1 hm with rfl | hm
  · trivial
  · rw [Entry.members_eq] at hm
    obtain ⟨f, -, hf⟩ := List.mem_filterMap.1 hm
    obtain ⟨x, hx, rfl⟩ := Option.map_eq_some_iff.1 hf
    exact fits_scalar hx

theorem after_byteCount (label : String) (s : Shown) :
    after "byte_count" (JsonLines.members label s) = Field.optional.filterMap s.flow.member? := by
  have hoptional : Field.optional.filterMap (told s).member? =
      Field.optional.filterMap s.flow.member? := rfl
  rw [← hoptional]
  show after "byte_count" (_ :: (told s).members) = _
  rw [Entry.members_optional]
  rfl

theorem after_bytes (label : String) (s : Shown) :
    after "bytes" (Logfmt.fields label s) = s.flow.attributes := by
  simp [after, Logfmt.fields]

theorem after_numOctets (s : Shown) : after "numOctets" (Xml.fields s) = s.flow.attributes := by
  simp [after, Xml.fields]

/-- The attributes of a flow that was read are told by every structured format: those that are
known, in one order, and with one value.  They tell all that is known of the flow beyond its ends
and its bytes. -/
theorem same_attributes {line : List Char} {record : Record}
    (hrecord : Record.ofLine line = .ok record) {flow : Entry} (hflow : flow ∈ record.flows) :
    (∀ label source dest : String, ∃ json log element members fields pairs,
      (jsonLines label).entry ⟨flow, source, dest⟩ = .ok json ∧
      readAll readObject json.toList = .ok members ∧
      (logfmt label).entry ⟨flow, source, dest⟩ = .ok log ∧
      Logfmt.readFields log.toList = some fields ∧
      xml.entry ⟨flow, source, dest⟩ = .ok element ∧
      Xml.readFlow element.toList = some pairs ∧
      (after "byte_count" members).map Prod.fst = flow.attributes.map Prod.fst ∧
      List.Forall₂ Agrees (after "byte_count" members) flow.attributes ∧
      after "bytes" fields = flow.attributes ∧
      after "numOctets" pairs = flow.attributes) ∧
    flow.attributes.map Prod.fst = (flow.presence.filter Prod.snd).map Prod.fst ∧
    ∀ {line' : List Char} {record' : Record} {flow' : Entry},
      Record.ofLine line' = .ok record' → flow' ∈ record'.flows →
      flow'.attributes = flow.attributes → ∀ f ∈ Field.optional, flow'.value f = flow.value f := by
  have hsound : flow.Sound := Record.sound_of_ofLine hrecord flow hflow
  refine ⟨fun label source dest => ?_, flow.names_attributes_eq, ?_⟩
  · have hagrees := Entry.agrees hsound
    have hnames := List.forall₂_map_left_iff.2 (List.forall₂_map_right_iff.2
      (hagrees.imp fun _ _ h => h.1))
    let shown : Shown := ⟨flow, source, dest⟩
    refine ⟨_, _, _, JsonLines.members label shown, Logfmt.fields label shown, Xml.fields shown,
      rfl, ?_, rfl, ?_, rfl, ?_, ?_, ?_, ?_, ?_⟩
    · rw [String.toList_ofList]
      exact readObject_writeObject (fits_members label shown)
    · rw [String.toList_ofList]
      exact Logfmt.readFields_fields label shown
    · rw [String.toList_ofList]
      exact Xml.readFlow_eq_some_iff.2 (Xml.isFlow_entry shown)
    · rw [after_byteCount]
      exact List.forall₂_eq_eq_eq ▸ hnames
    · rwa [after_byteCount]
    · exact after_bytes label shown
    · exact after_numOctets shown
  · intro line' record' flow' hrecord' hflow' h
    exact Entry.value_eq_of_attributes_eq (Record.sound_of_ofLine hrecord' flow' hflow') hsound h

theorem same_attributes_spelt :
    let extra (e : Entry) : Entry :=
      { e with nextHop := some "\x01<", tos := some 255, firstSeen := some ⟨15008, 0, 500000000⟩ }
    let flow := extra (Entry.new "a" 1 "b" 2 3)
    let other := extra (Entry.new "" 1 "c" 2 0)
    let line := ["\x7b\"flows\":[\x7b\"bytes\":3,\"first_seen\":\"2011-02-03T01:00:00.5+01:00\",",
      "\"source_host\":\"a\",\"source_port\":1,\"dest_host\":\"b\",\"dest_port\":2,",
      "\"tos\":255,\"next_hop\":\"\\u0001<\"\x7d]\x7d"].flatMap String.toList
    let otherLine := ["\x7b\"flows\":[\x7b\"source_host\":\"\",\"source_port\":1,",
      "\"dest_host\":\"c\",\"dest_port\":2,\"byte_count\":0,\"next_hop\":\"\\u0001\\u003c\",",
      "\"tos\":255,\"first_seen\":\"2011-02-03t00:00:00.500z\"\x7d]\x7d"].flatMap String.toList
    Record.ofLine line = .ok ⟨[flow]⟩ ∧ Record.ofLine otherLine = .ok ⟨[other]⟩ ∧
      flow.attributes.map Prod.fst = ["next_hop", "tos", "first_seen"] ∧
      (∃ json members, (jsonLines "flow").entry ⟨flow, "a", "b"⟩ = .ok json ∧
        readAll readObject json.toList = .ok members ∧
        List.Forall₂ Agrees (after "byte_count" members) flow.attributes) ∧
      ∀ f ∈ Field.optional, other.value f = flow.value f := by
  intro extra flow other line otherLine
  have hread : Record.ofLine line = .ok ⟨[flow]⟩ := eq_ok_of_toOption (by decide +kernel)
  have hother : Record.ofLine otherLine = .ok ⟨[other]⟩ := eq_ok_of_toOption (by decide +kernel)
  have hmem : flow ∈ (Record.mk [flow]).flows := List.mem_singleton_self flow
  have hmem' : other ∈ (Record.mk [other]).flows := List.mem_singleton_self other
  obtain ⟨htold, hnames, hsame⟩ := same_attributes hread hmem
  obtain ⟨json, -, -, members, -, -, hjson, hmembers, -, -, -, -, -, hagrees, -, -⟩ :=
    htold "flow" "a" "b"
  exact ⟨hread, hother, hnames, ⟨json, members, hjson, hmembers, hagrees⟩,
    hsame hother hmem' rfl⟩

end FlowLines.Layout
