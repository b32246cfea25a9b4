import FlowLines.Flow.Decode
import FlowLines.Proofs.Json.Between

/-! Records and flows as functions of trees. -/

namespace FlowLines.Flow

open FlowLines.Json

def nameOf? (t : Tree) : Option String := t.text?.map String.ofList

def byteOf? (t : Tree) : Option UInt8 := (t.natural?.filter (· < UInt8.size)).map UInt8.ofNat

def shortOf? (t : Tree) : Option UInt16 := (t.natural?.filter (· < UInt16.size)).map UInt16.ofNat

def countOf? (t : Tree) : Option UInt64 := (t.natural?.filter (· < UInt64.size)).map UInt64.ofNat

def instantOf? (t : Tree) : Option Time.Instant :=
  t.text?.bind fun s => (Time.Instant.parse s).toOption

def Field.ofTree? : (f : Field) → Tree → Option f.Value
  | .sourceHost | .destHost => nameOf?
  | .sourcePort | .destPort => shortOf?
  | .byteCount => countOf?
  | .nextHop => Tree.optional nameOf?
  | .packetCount => Tree.optional countOf?
  | .protocol | .tcpFlags | .tos => Tree.optional byteOf?
  | .sourceAs | .destAs | .snmpIn | .snmpOut => Tree.optional shortOf?
  | .firstSeen | .lastSeen => Tree.optional instantOf?

theorem reads_readName : Reads readName nameOf? := (reads_readText "a string").map String.ofList

theorem reads_readByte : Reads readByte byteOf? :=
  (reads_readNatural "u8" (by decide)).map UInt8.ofNat

theorem reads_readShort : Reads readShort shortOf? :=
  (reads_readNatural "u16" (by decide)).map UInt16.ofNat

theorem reads_readCount : Reads readCount countOf? :=
  (reads_readNatural "u64" (Nat.le_refl _)).map UInt64.ofNat

theorem readInstant_eq : readInstant = checked Time.Instant.parse
    (fun f r => ⟨.refused f.message, r, 0⟩)
    (readText "an RFC 3339 formatted date and time string") := by
  funext s
  refine bind_congr fun (t, r) => ?_
  dsimp only
  cases Time.Instant.parse t <;> rfl

theorem reads_readInstant : Reads readInstant instantOf? := by
  rw [readInstant_eq]
  exact (reads_readText _).checked _ _

theorem Field.reads_read : (f : Field) → Reads f.read f.ofTree?
  | .sourceHost | .destHost => reads_readName
  | .sourcePort | .destPort => reads_readShort
  | .byteCount => reads_readCount
  | .nextHop => reads_readName.optional
  | .packetCount => reads_readCount.optional
  | .protocol | .tcpFlags | .tos => reads_readByte.optional
  | .sourceAs | .destAs | .snmpIn | .snmpOut => reads_readShort.optional
  | .firstSeen | .lastSeen => reads_readInstant.optional

/-- A key that names no field says nothing, and a field is given once. -/
def Draft.give : Step Draft := fun key t d =>
  match Field.ofName? (String.ofList key) with
  | none => some d
  | some f => if (d f).isSome then none else (f.ofTree? t).map (d.set f)

theorem gathers_entryMembers : Gathers entryMembers Draft.give where
  refuses {key d cause} h t := by
    unfold entryMembers at h
    unfold Draft.give
    cases hf : Field.ofName? (String.ofList key) with
    | none => simp [hf] at h
    | some f =>
      simp only [hf] at h ⊢
      split at h
      · next hsome => exact if_pos hsome
      · cases h
  reads {key d read} h := by
    unfold entryMembers at h
    unfold Draft.give
    cases hf : Field.ofName? (String.ofList key) with
    | none =>
      simp only [hf] at h ⊢
      cases h
      exact reads_passing d
    | some f =>
      simp only [hf] at h ⊢
      split at h
      · cases h
      · next hnone =>
        cases h
        simp only [if_neg hnone]
        exact f.reads_read.map (d.set f)

/-- Where a field may be absent, the rest may be. -/
def Draft.fill : List Field → Draft → List Tree → Option Draft
  | [], d, [] => some d
  | [], _, _ :: _ => none
  | f :: _, d, [] => if f.absent?.isSome then some d else none
  | f :: fs, d, t :: ts => (f.ofTree? t).bind fun v => Draft.fill fs (d.set f v) ts

theorem endOfList_ok {s r : List Char} (h : endOfList s = .ok r) : skipSpace s = ']' :: r := by
  unfold endOfList at h
  split at h
  · cases h
  · next hs =>
    cases h
    exact hs
  · split at h <;> cases h
  · cases h

theorem endOfList_of_eq {s r : List Char} (h : skipSpace s = ']' :: r) : endOfList s = .ok r := by
  simp only [endOfList, h]

theorem endOfList_comma {s r : List Char} (h : skipSpace s = ',' :: r) :
    (endOfList s).toOption = none := by
  simp only [endOfList, h]
  split <;> rfl

theorem readFields_of_lays (fs : List Field) : ∀ (position : Nat) (d : Draft) (ts : List Tree)
    (s r : List Char), (fs = [] → position ≠ 0) →
      Lays (upTo ']' (position = 0) (ts.map Tree.tokens)) s r →
      (readFields position fs d s).toOption = (Draft.fill fs d ts).map (·, r) := by
  induction fs with
  | nil =>
    intro position d ts s r hposition h
    rw [decide_eq_false (hposition rfl)] at h
    cases ts with
    | nil =>
      have hend := endOfList_of_eq ((Lays.mark_iff rfl).1 h)
      simp [readFields, Draft.fill, hend]
    | cons t ts =>
      obtain ⟨s', hs, -⟩ := (Lays.mark_cons_iff rfl).1 h
      rw [readFields, toOption_map, endOfList_comma hs]
      rfl
  | cons f fs ih =>
    intro position d ts s r hposition h
    cases ts with
    | nil =>
      have hnext := nextElement_done (position = 0) ((Lays.mark_iff rfl).1 h)
      rw [readFields, hnext, ok_bind, Draft.fill]
      dsimp only
      split <;> rfl
    | cons t ts =>
      obtain ⟨s₁, s₂, hnext, ht, hs, -⟩ := nextElement_member h
      have hread := f.reads_read.of_lays ht (Lays.ends_upTo (e := .list) hs)
      rw [readFields, hnext, ok_bind, Draft.fill]
      dsimp only
      rw [toOption_bind, hread]
      cases f.ofTree? t with
      | none => rfl
      | some v => exact ih (position + 1) (d.set f v) ts s₂ r (fun _ => Nat.succ_ne_zero _) hs

theorem readFields_ok (fs : List Field) : ∀ (position : Nat) (d d' : Draft) (s r : List Char),
    readFields position fs d s = .ok (d', r) →
      ∃ ts : List Tree, Lays (upTo ']' (position = 0) (ts.map Tree.tokens)) s r ∧
        Draft.fill fs d ts = some d' := by
  induction fs with
  | nil =>
    intro position d d' s r h
    obtain ⟨r', hend, heq⟩ := map_eq_ok h
    cases heq
    exact ⟨[], (Lays.mark_iff rfl).2 (endOfList_ok hend), rfl⟩
  | cons f fs ih =>
    intro position d d' s r h
    obtain ⟨next, hnext, h⟩ := bind_eq_ok h
    cases next with
    | member s₁ =>
      obtain ⟨⟨v, s₂⟩, hv, h⟩ := bind_eq_ok h
      obtain ⟨t, ht, hvalue⟩ := f.reads_read.exists_tree hv
      obtain ⟨ts, hitems, hfill⟩ := ih (position + 1) (d.set f v) d' s₂ r h
      exact ⟨t :: ts, lays_of_nextElement hnext ht hitems, by rw [Draft.fill, hvalue]; exact hfill⟩
    | done r' =>
      dsimp only at h
      split at h
      · next habsent =>
        cases h
        have hend := (Lays.mark_iff rfl).2 (skipSpace_of_nextElement hnext)
        exact ⟨[], hend, by rw [Draft.fill, if_pos habsent]⟩
      · cases h

def Entry.draft? : Tree → Option Draft
  | .object ms => ms.foldlM Draft.give.member FlowLines.Draft.empty
  | .list ts => Draft.fill Field.all FlowLines.Draft.empty ts
  | _ => none

def Entry.ofTree? (t : Tree) : Option Entry := (Entry.draft? t).bind fun d => d.toEntry.toOption

def readDraft : Reader Draft := fun s =>
  match skipSpace s with
  | [] => .error ⟨.endInValue, [], 0⟩
  | '[' :: r => readFields 0 Field.all FlowLines.Draft.empty r
  | '{' :: r => readMembers entryMembers FlowLines.Draft.empty r
  | s => .error (mismatch "struct FlowEntry" s)

theorem readEntryList_eq : readEntryList = checked Draft.toEntry (fun cause r => ⟨cause, r, 0⟩)
    (readFields 0 Field.all FlowLines.Draft.empty) := by
  funext s
  refine bind_congr fun known => ?_
  obtain ⟨d, r⟩ := known
  dsimp only
  cases d.toEntry <;> rfl

theorem readEntryObject_eq : readEntryObject = checked Draft.toEntry (fun cause r => ⟨cause, r, 0⟩)
    (readMembers entryMembers FlowLines.Draft.empty) := by
  funext s
  refine bind_congr fun known => ?_
  obtain ⟨d, r⟩ := known
  dsimp only
  cases d.toEntry <;> rfl

theorem readEntry_eq :
    readEntry = checked Draft.toEntry (fun cause r => ⟨cause, r, 0⟩) readDraft := by
  funext s
  unfold readEntry
  rw [readEntryList_eq, readEntryObject_eq]
  unfold checked readDraft
  cases skipSpace s with
  | nil => rfl
  | cons c r =>
    by_cases hlist : c = '['
    · subst hlist
      rfl
    by_cases hobject : c = '{'
    · subst hobject
      rfl
    simp only [List.cons.injEq, hlist, hobject, false_and, imp_self, implies_true]
    rfl

theorem readDraft_none {c : Char} {s s' : List Char} (hs : skipSpace s = c :: s') (hlist : c ≠ '[')
    (hobject : c ≠ '{') : (readDraft s).toOption = none := by
  unfold readDraft
  rw [hs]
  split
  · rfl
  · next heq => exact absurd (List.cons.inj heq).1 hlist
  · next heq => exact absurd (List.cons.inj heq).1 hobject
  · rfl

theorem reads_readDraft : Reads readDraft Entry.draft? where
  of_lays {t s r} h hr := by
    obtain ⟨c, s', hs, hc⟩ := h.begins
    by_cases hlist : c = '['
    · obtain ⟨ts, rfl⟩ := (hlist ▸ hc).of_bracket
      obtain ⟨s₁, hs₁, hts⟩ := Lays.list.1 h
      have hfields := readFields_of_lays Field.all 0 FlowLines.Draft.empty ts s₁ r nofun hts
      simpa only [readDraft, hs₁, Entry.draft?] using hfields
    by_cases hobject : c = '{'
    · obtain ⟨ms, rfl⟩ := (hobject ▸ hc).of_brace
      obtain ⟨s₁, hs₁, hms⟩ := Lays.object.1 h
      have hmembers := readMembers_of_lays gathers_entryMembers FlowLines.Draft.empty hms
      simpa only [readDraft, hs₁, Entry.draft?] using hmembers
    rw [readDraft_none hs hlist hobject]
    cases t with
    | list ts => exact absurd hc hlist
    | object ms => exact absurd hc hobject
    | _ => rfl
  exists_tree {s r d} hs := by
    unfold readDraft at hs
    split at hs
    · cases hs
    · next s' heq =>
      obtain ⟨ts, hts, hd⟩ := readFields_ok Field.all 0 FlowLines.Draft.empty d s' r hs
      exact ⟨.list ts, Lays.list.2 ⟨s', heq, hts⟩, hd⟩
    · next s' heq =>
      obtain ⟨ms, hms, hd⟩ := readMembers_ok gathers_entryMembers hs
      exact ⟨.object ms, Lays.object.2 ⟨s', heq, hms⟩, hd⟩
    · cases hs

theorem reads_readEntry : Reads readEntry Entry.ofTree? := by
  rw [readEntry_eq]
  exact reads_readDraft.checked _ _

def Record.give : Step (Option (List Entry)) := fun key t flows =>
  if key = "flows".toList then
    if flows.isSome then none else (t.elements Entry.ofTree?).map some
  else some flows

theorem gathers_recordMembers : Gathers recordMembers Record.give where
  refuses {key flows cause} h t := by
    unfold recordMembers at h
    unfold Record.give
    split at h
    · next hkey =>
      rw [if_pos hkey]
      split at h
      · rfl
      · cases h
    · cases h
  reads {key flows read} h := by
    unfold recordMembers at h
    unfold Record.give
    split at h
    · next hkey =>
      simp only [if_pos hkey]
      split at h
      · cases h
      · cases h
        exact reads_readEntry.list.map some
    · next hkey =>
      cases h
      simp only [if_neg hkey]
      exact reads_passing flows

/-- An object, or a list with the flows in it if with anything. -/
def Record.ofTree? : Tree → Option Record
  | .object ms => (ms.foldlM Record.give.member none).map fun flows => { flows := flows.getD [] }
  | .list [] => some {}
  | .list [t] => (t.elements Entry.ofTree?).map fun flows => { flows }
  | _ => none

theorem readRecordList_of_lays {ts : List Tree} {s r : List Char}
    (h : Lays (upTo ']' true (ts.map Tree.tokens)) s r) :
    (readRecordList s).toOption = (Record.ofTree? (.list ts)).map (·, r) := by
  cases ts with
  | nil =>
    have hnext := nextElement_done true ((Lays.mark_iff rfl).1 h)
    rw [readRecordList, hnext]
    rfl
  | cons t ts =>
    obtain ⟨s₁, s₂, hnext, ht, hs, -⟩ := nextElement_member h
    have hread := reads_readEntry.list.of_lays ht (Lays.ends_upTo (e := .list) hs)
    rw [readRecordList, hnext, ok_bind]
    dsimp only
    rw [toOption_bind, hread]
    cases ts with
    | nil =>
      have hend := endOfList_of_eq ((Lays.mark_iff rfl).1 hs)
      rw [Record.ofTree?]
      cases t.elements Entry.ofTree? with
      | none => rfl
      | some flows => simp [hend]
    | cons t' ts =>
      obtain ⟨s', hs', -⟩ := (Lays.mark_cons_iff rfl).1 hs
      have hend := endOfList_comma hs'
      cases t.elements Entry.ofTree? with
      | none => rfl
      | some flows =>
        simp only [Option.map_some, Option.bind_some, toOption_map, hend]
        rfl

theorem readRecordList_ok {s r : List Char} {record : Record}
    (h : readRecordList s = .ok (record, r)) :
    ∃ ts : List Tree, Lays (upTo ']' true (ts.map Tree.tokens)) s r ∧
      Record.ofTree? (.list ts) = some record := by
  obtain ⟨next, hnext, h⟩ := bind_eq_ok h
  cases next with
  | done r' =>
    cases h
    exact ⟨[], (Lays.mark_iff rfl).2 (skipSpace_of_nextElement hnext), rfl⟩
  | member s₁ =>
    obtain ⟨⟨flows, s₂⟩, hflows, h⟩ := bind_eq_ok h
    obtain ⟨r', hend, heq⟩ := map_eq_ok h
    cases heq
    obtain ⟨t, ht, hvalue⟩ := reads_readEntry.list.exists_tree hflows
    have hclose := (Lays.mark_iff (by decide)).2 (endOfList_ok hend)
    refine ⟨[t], lays_of_nextElement hnext ht hclose, ?_⟩
    rw [Record.ofTree?, hvalue]
    rfl

theorem readRecord_none {c : Char} {s s' : List Char} (hs : skipSpace s = c :: s')
    (hlist : c ≠ '[') (hobject : c ≠ '{') : (readRecord s).toOption = none := by
  unfold readRecord
  rw [hs]
  split
  · rfl
  · next heq => exact absurd (List.cons.inj heq).1 hlist
  · next heq => exact absurd (List.cons.inj heq).1 hobject
  · rfl

theorem reads_readRecord : Reads readRecord Record.ofTree? where
  of_lays {t s r} h hr := by
    obtain ⟨c, s', hs, hc⟩ := h.begins
    by_cases hlist : c = '['
    · obtain ⟨ts, rfl⟩ := (hlist ▸ hc).of_bracket
      obtain ⟨s₁, hs₁, hts⟩ := Lays.list.1 h
      simpa only [readRecord, hs₁] using readRecordList_of_lays hts
    by_cases hobject : c = '{'
    · obtain ⟨ms, rfl⟩ := (hobject ▸ hc).of_brace
      obtain ⟨s₁, hs₁, hms⟩ := Lays.object.1 h
      have hmembers := readMembers_of_lays gathers_recordMembers none hms
      simp only [readRecord, hs₁, toOption_map, hmembers, Record.ofTree?]
      cases ms.foldlM Record.give.member none <;> rfl
    rw [readRecord_none hs hlist hobject]
    cases t with
    | list ts => exact absurd hc hlist
    | object ms => exact absurd hc hobject
    | _ => rfl
  exists_tree {s r record} hs := by
    unfold readRecord at hs
    split at hs
    · cases hs
    · next s' heq =>
      obtain ⟨ts, hts, hrecord⟩ := readRecordList_ok hs
      exact ⟨.list ts, Lays.list.2 ⟨s', heq, hts⟩, hrecord⟩
    · next s' heq =>
      obtain ⟨⟨flows, r'⟩, hflows, hrecord⟩ := map_eq_ok hs
      cases hrecord
      obtain ⟨ms, hms, hgive⟩ := readMembers_ok gathers_recordMembers hflows
      exact ⟨.object ms, Lays.object.2 ⟨s', heq, hms⟩, by rw [Record.ofTree?, hgive]; rfl⟩
    · cases hs

/-- The line is the tree, with blanks around it. -/
def Holds (line : List Char) (t : Tree) : Prop := t.Spells (Text.trim line)

theorem Record.ofLine_of_holds {t : Tree} {line : List Char} (h : Holds line t) :
    (Record.ofLine line).toOption = Record.ofTree? t :=
  reads_readRecord.readAll_of_spells h

/-- A line is read as a record exactly when it holds a tree that is one, which is that record. -/
theorem Record.ofLine_eq_ok_iff {line : List Char} {record : Record} :
    Record.ofLine line = .ok record ↔
      ∃ t : Tree, Holds line t ∧ Record.ofTree? t = some record := by
  constructor
  · exact reads_readRecord.readAll_ok
  · rintro ⟨t, ht, hrecord⟩
    exact eq_ok_of_toOption ((Record.ofLine_of_holds ht).trans hrecord)

end FlowLines.Flow
