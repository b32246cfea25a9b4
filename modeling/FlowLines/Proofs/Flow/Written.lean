import FlowLines.Flow.Encode
import FlowLines.Proofs.Flow.Sound
import FlowLines.Proofs.Json.Members

/-! A written flow is read back as itself, and so is a written record. -/

namespace FlowLines.Flow

open FlowLines.Json

theorem takes_readName (s : String) : Takes readName (Scalar.text s).write s := by
  have h := (takes_readText "a string" s.toList).map String.ofList
  rw [String.ofList_toList] at h
  exact h

theorem takes_readByte (n : UInt8) : Takes readByte (Scalar.natural n.toNat).write n := by
  have h := (takes_readNatural "u8" n.toNat_lt (by decide)).map UInt8.ofNat
  rw [UInt8.ofNat_toNat] at h
  exact h

theorem takes_readShort (n : UInt16) : Takes readShort (Scalar.natural n.toNat).write n := by
  have h := (takes_readNatural "u16" n.toNat_lt (by decide)).map UInt16.ofNat
  rw [UInt16.ofNat_toNat] at h
  exact h

theorem takes_readCount (n : UInt64) : Takes readCount (Scalar.natural n.toNat).write n := by
  have h := (takes_readNatural "u64" n.toNat_lt (by decide)).map UInt64.ofNat
  rw [UInt64.ofNat_toNat] at h
  exact h

theorem takes_readInstant {i : Time.Instant} (h : i.Valid) :
    Takes readInstant (Scalar.text (String.ofList (i.write .letter))).write i where
  starts := starts_writeString _
  reads rest hr := by
    have ht := (takes_readText "an RFC 3339 formatted date and time string"
      (i.write .letter)).reads rest hr
    simp only [Scalar.write, String.toList_ofList, readInstant, ht, ok_bind,
      Time.Instant.parse_write h]

def Field.scalar? : (f : Field) → f.Value → Option Scalar
  | .sourceHost, v | .destHost, v => some (.text v)
  | .sourcePort, v | .destPort, v => some (.natural (UInt16.toNat v))
  | .byteCount, v => some (.natural (UInt64.toNat v))
  | .nextHop, v => Option.map .text v
  | .packetCount, v => Option.map (fun n : UInt64 => .natural n.toNat) v
  | .protocol, v | .tcpFlags, v | .tos, v => Option.map (fun n : UInt8 => .natural n.toNat) v
  | .sourceAs, v | .destAs, v | .snmpIn, v | .snmpOut, v =>
    Option.map (fun n : UInt16 => .natural n.toNat) v
  | .firstSeen, v | .lastSeen, v =>
    Option.map (fun i : Time.Instant => .text (String.ofList (i.write .letter))) v

theorem Field.takes_read {f : Field} {v : f.Value} {x : Scalar} (hv : f.Sound v)
    (h : f.scalar? v = some x) : Takes f.read x.write v := by
  cases f with
  | sourceHost | destHost =>
    cases h
    exact takes_readName v
  | sourcePort | destPort =>
    cases h
    exact takes_readShort v
  | byteCount =>
    cases h
    exact takes_readCount v
  | nextHop =>
    obtain ⟨s, rfl, rfl⟩ := Option.map_eq_some_iff.1 h
    exact (takes_readName s).optional
  | packetCount =>
    obtain ⟨n, rfl, rfl⟩ := Option.map_eq_some_iff.1 h
    exact (takes_readCount n).optional
  | protocol | tcpFlags | tos =>
    obtain ⟨n, rfl, rfl⟩ := Option.map_eq_some_iff.1 h
    exact (takes_readByte n).optional
  | sourceAs | destAs | snmpIn | snmpOut =>
    obtain ⟨n, rfl, rfl⟩ := Option.map_eq_some_iff.1 h
    exact (takes_readShort n).optional
  | firstSeen | lastSeen =>
    obtain ⟨i, rfl, rfl⟩ := Option.map_eq_some_iff.1 h
    exact (takes_readInstant (hv i rfl)).optional

theorem Field.absent_of_scalar_eq_none {f : Field} {v : f.Value} (h : f.scalar? v = none) :
    f.absent? = some v := by
  cases f with
  | sourceHost | sourcePort | destHost | destPort | byteCount => cases h
  | _ =>
    cases Option.map_eq_none_iff.1 h
    rfl

theorem Field.ofName_name (f : Field) : Field.ofName? (String.ofList f.name.toList) = some f := by
  rw [String.ofList_toList]
  cases f <;> decide

def Entry.member? (e : Entry) (f : Field) : Option (String × Scalar) :=
  (f.scalar? (e.value f)).map (f.name, ·)

theorem filterMap_cons_toList {α β : Type} (g : α → Option β) (a : α) (l : List α) :
    (a :: l).filterMap g = (g a).toList ++ l.filterMap g := by
  cases h : g a <;> simp [h]

theorem Entry.members_eq (e : Entry) : e.members = Field.all.filterMap e.member? := by
  simp only [Field.all, filterMap_cons_toList, List.filterMap_nil, List.append_nil]
  simp only [Entry.members, Entry.member?, Field.scalar?, Entry.value, Field.name, Option.map_map,
    List.append_assoc]
  rfl

def Entry.onto (e : Entry) (fs : List Field) (d : Draft) : Draft := fun f =>
  if f ∈ fs ∧ (f.scalar? (e.value f)).isSome then some (e.value f) else d f

theorem Entry.onto_nil (e : Entry) (d : Draft) : e.onto [] d = d := by
  funext f
  simp [Entry.onto]

theorem Entry.onto_cons_of_some {e : Entry} {f : Field} {x : Scalar}
    (h : f.scalar? (e.value f) = some x) (fs : List Field) (d : Draft) :
    e.onto (f :: fs) d = e.onto fs (d.set f (e.value f)) := by
  funext g
  by_cases hg : f = g
  · cases hg
    simp [Entry.onto, h]
  · simp [Entry.onto, FlowLines.Draft.set_of_ne d _ hg, Ne.symm hg]

theorem Entry.onto_cons_of_none {e : Entry} {f : Field} (h : f.scalar? (e.value f) = none)
    (fs : List Field) (d : Draft) : e.onto (f :: fs) d = e.onto fs d := by
  funext g
  by_cases hg : f = g
  · cases hg
    simp [Entry.onto, h]
  · simp [Entry.onto, Ne.symm hg]

theorem Entry.toEntry_onto (e : Entry) :
    Draft.toEntry (e.onto Field.all FlowLines.Draft.empty) = .ok e := by
  rw [Draft.toEntry_eq_ok_iff]
  intro f
  have hall : f ∈ Field.all := by cases f <;> decide
  unfold Draft.get Entry.onto
  cases h : f.scalar? (e.value f) with
  | some x => simp [hall]
  | none =>
    have habsent := Field.absent_of_scalar_eq_none h
    simp [FlowLines.Draft.empty, habsent]

theorem absorbs_members {e : Entry} (he : e.Sound) (fs : List Field) :
    ∀ d : Draft, fs.Nodup → (∀ f ∈ fs, d f = none) →
      Absorbs entryMembers (pairs (fs.filterMap e.member?)) d (e.onto fs d) := by
  induction fs with
  | nil =>
    intro d _ _
    rw [Entry.onto_nil]
    exact .nil d
  | cons f fs ih =>
    intro d hnodup hd
    rw [List.nodup_cons] at hnodup
    cases h : f.scalar? (e.value f) with
    | none =>
      rw [Entry.onto_cons_of_none h, List.filterMap_cons_none (by rw [Entry.member?, h]; rfl)]
      exact ih d hnodup.2 fun g hg => hd g (List.mem_cons_of_mem f hg)
    | some x =>
      have htake := (Field.takes_read (he f) h).map fun v => d.set f v
      have hkey : entryMembers f.name.toList d = .ok (mapped (fun v => d.set f v) f.read) := by
        have hnone := hd f List.mem_cons_self
        simp only [entryMembers, Field.ofName_name, hnone]
        rfl
      rw [Entry.onto_cons_of_some h,
        List.filterMap_cons_some (b := (f.name, x)) (by rw [Entry.member?, h]; rfl)]
      apply Absorbs.cons hkey htake
      apply ih _ hnodup.2
      intro g hg
      have hne : f ≠ g := fun heq => hnodup.1 (heq ▸ hg)
      rw [FlowLines.Draft.set_of_ne d _ hne]
      exact hd g (List.mem_cons_of_mem f hg)

theorem takes_readEntry {o : Json.Object} {d : Draft} {e : Entry}
    (h : Absorbs entryMembers (pairs o) FlowLines.Draft.empty d) (hd : d.toEntry = .ok e) :
    Takes readEntry (Json.writeObject o) e where
  starts := ⟨rfl, by decide, by decide⟩
  reads rest _ := by
    have hspace (r : List Char) : skipSpace ('{' :: r) = '{' :: r := rfl
    simp only [writeObject_append, readEntry, hspace, readEntryObject, readMembers_absorbs h,
      ok_bind, hd]

theorem Entry.takes_write {e : Entry} (h : e.Sound) : Takes readEntry e.write e := by
  have habsorbs := absorbs_members h Field.all FlowLines.Draft.empty (by decide) fun _ _ => rfl
  rw [← Entry.members_eq] at habsorbs
  exact takes_readEntry habsorbs e.toEntry_onto

def aroundFlows (flows : List Char) : List Char :=
  '{' :: (writePair ("flows".toList, '[' :: flows ++ [']']) ++ ['}'])

theorem aroundFlows_eq (flows : List Char) :
    "\x7b\"flows\":[".toList ++ flows ++ "]\x7d".toList = aroundFlows flows := by
  simp [aroundFlows, writePair, writeString, writeChar]

theorem readRecord_aroundFlows {write : Entry → List Char} {es : List Entry}
    (h : ∀ e ∈ es, Takes readEntry (write e) e) :
    readRecord (aroundFlows ([','].intercalate (es.map write))) = .ok (⟨es⟩, []) := by
  have hspace (r : List Char) : skipSpace ('{' :: r) = '{' :: r := rfl
  have hkey : recordMembers "flows".toList none = .ok (mapped some (readList readEntry)) := rfl
  have habsorbs := Absorbs.cons hkey ((takes_readList h).map some) (.nil (some es))
  have hread := readMembers_absorbs habsorbs []
  rw [List.map_singleton, List.intercalate_singleton] at hread
  simp only [aroundFlows, readRecord, hspace, hread, map_ok, Option.getD_some]

theorem trim_aroundFlows (flows : List Char) :
    Text.trim (aroundFlows flows) = aroundFlows flows := by
  have hstart (r : List Char) : Text.trimStart ('{' :: r) = '{' :: r := rfl
  have hend (r : List Char) : Text.trimEnd (r ++ ['}']) = r ++ ['}'] := by
    have hdrop (s : List Char) : ('}' :: s).dropWhile Text.isBlank = '}' :: s := rfl
    rw [Text.trimEnd, List.reverse_append, List.reverse_singleton, List.singleton_append, hdrop,
      List.reverse_cons, List.reverse_reverse]
  rw [aroundFlows, Text.trim, hstart, ← List.cons_append, hend]

theorem Record.ofLine_aroundFlows {write : Entry → List Char} {es : List Entry}
    (h : ∀ e ∈ es, Takes readEntry (write e) e) :
    Record.ofLine (aroundFlows ([','].intercalate (es.map write))) = .ok ⟨es⟩ := by
  rw [Record.ofLine, trim_aroundFlows, readAll, readRecord_aroundFlows h]
  rfl

theorem Record.ofLine_write {r : Record} (h : r.Sound) : Record.ofLine r.write = .ok r := by
  have hwrite : r.write = aroundFlows ([','].intercalate (r.flows.map Entry.write)) :=
    aroundFlows_eq _
  rw [hwrite]
  exact Record.ofLine_aroundFlows fun e he => Entry.takes_write (h e he)

theorem Entry.sound_new (sourceHost : String) (sourcePort : UInt16) (destHost : String)
    (destPort : UInt16) (byteCount : UInt64) :
    (Entry.new sourceHost sourcePort destHost destPort byteCount).Sound := by
  intro f
  cases f with
  | firstSeen | lastSeen =>
    intro i h
    cases h
  | _ => trivial

/-- A record that was read, or made of flows of which only the end points and the byte count are
known, is read back from its text. -/
theorem Record.ofLine_write_of_made {r : Record}
    (h : (∃ line, Record.ofLine line = .ok r) ∨ ∀ e ∈ r.flows,
      ∃ sourceHost sourcePort destHost destPort byteCount,
        e = Entry.new sourceHost sourcePort destHost destPort byteCount) :
    Record.ofLine r.write = .ok r := by
  apply Record.ofLine_write
  rcases h with ⟨line, h⟩ | h
  · exact Record.sound_of_ofLine h
  · intro e he
    obtain ⟨sourceHost, sourcePort, destHost, destPort, byteCount, rfl⟩ := h e he
    exact Entry.sound_new sourceHost sourcePort destHost destPort byteCount

/-- A text with an unknown key, an alias, escapes, a field that is told to be absent, the largest
counts, a leap second east of Greenwich and a year of five digits. -/
def oddLine : List Char :=
  ["\x7b\"flows\":[\x7b\"x\":[1],", "\"bytes\":18446744073709551615,",
    "\"source_host\":\"a\\u0001\\\"é\",", "\"source_port\":0,\"dest_host\":\"\",",
    "\"dest_port\":65535,\"tos\":null,", "\"first_seen\":\"2016-12-31 ",
    "23:59:60.25+00:59\",", "\"last_seen\":", "\"+12345-01-01T00:00:00z\"\x7d]\x7d"].flatMap
      String.toList

def oddRecord : Record where
  flows := [{
    sourceHost := "a\x01\"é"
    destPort := 65535
    byteCount := 18446744073709551615
    firstSeen := some ⟨17166, 82859, 1250000000⟩
    lastSeen := some ⟨3789391, 0, 0⟩ }]

theorem Record.ofLine_write_of_made_odd :
    Record.ofLine oddLine = .ok oddRecord ∧ Record.ofLine oddRecord.write = .ok oddRecord := by
  have h : Record.ofLine oddLine = .ok oddRecord := eq_ok_of_toOption (by decide +kernel)
  exact ⟨h, Record.ofLine_write_of_made (.inl ⟨oddLine, h⟩)⟩

end FlowLines.Flow
