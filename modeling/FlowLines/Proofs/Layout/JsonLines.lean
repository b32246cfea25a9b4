import FlowLines.Layout.JsonLines
import FlowLines.Proofs.Flow.Written
import FlowLines.Proofs.Reporter.Raw

/-! A flow laid out as JSON is a flow again, with its hosts under the names that were shown, and
it is laid out as the same line. -/

namespace FlowLines.Layout

open FlowLines.Json
open FlowLines.Flow (Entry Record Field)

/-- A string under a name that is given once.  Other members are passed over. -/
def textMembers (name : String) : Members (Option String) := fun key known =>
  if key = name.toList then
    match known with
    | some _ => .error (.duplicate name)
    | none => .ok (mapped some Flow.readName)
  else .ok (passing known)

def readUnder (name : String) : Reader (Option String) := fun s =>
  match skipSpace s with
  | '{' :: r => readMembers (textMembers name) none r
  | s => .error (mismatch "a map" s)

theorem absorbs_others {name : String} (known : Option String) {o : Json.Object}
    (h : ∀ m ∈ o, m.1 ≠ name) : Absorbs (textMembers name) (pairs o) known known := by
  induction o with
  | nil => exact .nil known
  | cons m o ih =>
    have hm : m.1.toList ≠ name.toList := by
      intro heq
      exact h m List.mem_cons_self (String.toList_inj.1 heq)
    have hkey : textMembers name m.1.toList known = .ok (passing known) := by
      simp only [textMembers, if_neg hm]
    exact .cons hkey (takes_passing m.2 known) (ih fun n hn => h n (List.mem_cons_of_mem m hn))

theorem readUnder_writeObject {name : String} (v : String) {o : Json.Object}
    (h : ∀ m ∈ o, m.1 ≠ name) :
    readAll (readUnder name) (writeObject ((name, .text v) :: o)) = .ok (some v) := by
  have hspace (r : List Char) : skipSpace ('{' :: r) = '{' :: r := rfl
  have hkey : textMembers name name.toList none = .ok (mapped some Flow.readName) := by
    simp only [textMembers, if_true]
  have habsorbs : Absorbs (textMembers name) (pairs ((name, .text v) :: o)) none (some v) :=
    .cons hkey ((Flow.takes_readName v).map some) (absorbs_others (some v) h)
  have hread : readUnder name (writeObject ((name, .text v) :: o)) = .ok (some v, []) := by
    rw [← List.append_nil (writeObject _), writeObject_append, readUnder, hspace]
    exact readMembers_absorbs habsorbs []
  rw [readAll, hread]
  rfl

def told (s : Shown) : Entry := { s.flow with sourceHost := s.source, destHost := s.dest }

theorem sound_told {s : Shown} (h : s.flow.Sound) : (told s).Sound := by
  intro f
  have hf := h f
  cases f with
  | firstSeen | lastSeen => exact hf
  | _ => trivial

theorem name_ne_label (f : Field) : f.name ≠ "label" := by
  cases f <;> decide

theorem members_ne_label (e : Entry) : ∀ m ∈ e.members, m.1 ≠ "label" := by
  intro m hm
  rw [Entry.members_eq] at hm
  obtain ⟨f, -, hf⟩ := List.mem_filterMap.1 hm
  obtain ⟨x, -, rfl⟩ := Option.map_eq_some_iff.1 hf
  exact name_ne_label f

theorem takes_members (label : String) {s : Shown} (h : s.flow.Sound) :
    Takes Flow.readEntry (writeObject (JsonLines.members label s)) (told s) := by
  have hname : Field.ofName? (String.ofList "label".toList) = none := by
    rw [String.ofList_toList]
    decide
  have hkey : Flow.entryMembers "label".toList FlowLines.Draft.empty =
      .ok (passing FlowLines.Draft.empty) := by
    simp only [Flow.entryMembers, hname]
    rfl
  have hfields := Flow.absorbs_members (sound_told h) Field.all FlowLines.Draft.empty (by decide)
    fun _ _ => rfl
  rw [← Entry.members_eq] at hfields
  exact Flow.takes_readEntry (.cons hkey (takes_passing (.text label) _) hfields)
    (told s).toEntry_onto

def lineOf (label : String) (s : Shown) : String :=
  String.ofList (writeObject (JsonLines.members label s))

theorem entry_jsonLines (label : String) (s : Shown) :
    (jsonLines label).entry s = .ok (lineOf label s) := rfl

theorem toList_lineOf (label : String) (s : Shown) :
    (lineOf label s).toList = writeObject (JsonLines.members label s) := String.toList_ofList

theorem readUnder_lineOf (label : String) (s : Shown) :
    readAll (readUnder "label") (lineOf label s).toList = .ok (some label) := by
  rw [toList_lineOf]
  exact readUnder_writeObject label (members_ne_label (told s))

theorem ofLine_lineOf (label : String) {s : Shown} (h : s.flow.Sound) :
    Record.ofLine ("\x7b\"flows\":[".toList ++ (lineOf label s).toList ++ "]\x7d".toList) =
      .ok ⟨[told s]⟩ := by
  have htakes : ∀ e ∈ [told s],
      Takes Flow.readEntry (writeObject (JsonLines.members label s)) e := by
    intro e he
    rw [List.mem_singleton.1 he]
    exact takes_members label h
  have hread := @Record.ofLine_aroundFlows (fun _ => writeObject (JsonLines.members label s))
    [told s] htakes
  rw [List.map_singleton, List.intercalate_singleton] at hread
  rw [toList_lineOf, Flow.aroundFlows_eq, hread]

theorem lineOf_told (label : String) (s : Shown) :
    lineOf label ⟨told s, s.source, s.dest⟩ = lineOf label s := rfl

def rawShown (flow : Entry) : Shown := ⟨flow, rawName flow.sourceHost, rawName flow.destHost⟩

theorem rawShown_told (flow : Entry) : rawShown (told (rawShown flow)) =
    ⟨told (rawShown flow), (rawShown flow).source, (rawShown flow).dest⟩ := by
  simp only [rawShown, told, rawName_rawName]

/-- Nothing of a flow that was read is lost in its line, under whatever names its hosts are shown,
and a flow shown without a name service is laid out as the same line when it comes back. -/
theorem jsonLines_fed_back {line : List Char} {record : Record}
    (hrecord : Record.ofLine line = .ok record) {flow : Entry} (hflow : flow ∈ record.flows)
    (label : String) :
    (∀ source dest, ∃ text, (jsonLines label).entry ⟨flow, source, dest⟩ = .ok text ∧
      readAll (readUnder "label") text.toList = .ok (some label) ∧
      Record.ofLine ("\x7b\"flows\":[".toList ++ text.toList ++ "]\x7d".toList) =
        .ok ⟨[{ flow with sourceHost := source, destHost := dest }]⟩) ∧
    ∀ {σ : Type} (marker : Option String) (desk : Desk σ),
      let reporter : Reporter σ := ⟨jsonLines label, Host.Resolver.raw, marker⟩
      ∃ text back, (jsonLines label).entry (reporter.showFlow flow desk).1 = .ok text ∧
        Record.ofLine ("\x7b\"flows\":[".toList ++ text.toList ++ "]\x7d".toList) =
          .ok ⟨[back]⟩ ∧
        (∀ again : Desk σ,
          (jsonLines label).entry (reporter.showFlow back again).1 = .ok text) ∧
        reporter.write ⟨[back]⟩ desk = reporter.write ⟨[flow]⟩ desk := by
  have hsound : flow.Sound := Record.sound_of_ofLine hrecord flow hflow
  constructor
  · intro source dest
    have hshown : (Shown.mk flow source dest).flow.Sound := hsound
    exact ⟨lineOf label ⟨flow, source, dest⟩, entry_jsonLines label _, readUnder_lineOf label _,
      ofLine_lineOf label hshown⟩
  · intro σ marker desk reporter
    have hshown : (rawShown flow).flow.Sound := hsound
    have hshow (e : Entry) (d : Desk σ) : reporter.showFlow e d = (rawShown e, d) :=
      Reporter.showFlow_raw rfl e d
    have hback : (jsonLines label).entry (rawShown (told (rawShown flow))) =
        .ok (lineOf label (rawShown flow)) := by
      rw [rawShown_told, entry_jsonLines, lineOf_told]
    refine ⟨lineOf label (rawShown flow), told (rawShown flow), ?_, ofLine_lineOf label hshown, ?_,
      ?_⟩
    · rw [hshow, entry_jsonLines]
    · intro again
      rw [hshow, hback]
    · apply Reporter.write_singleton_congr
      · rw [hshow, hshow]
      · rw [hshow, hshow]
        exact hback

theorem jsonLines_fed_back_control :
    let flow := Entry.new "\t" 80 "a\x07" 443 1500
    let line := ["\x7b\"flows\":[", "\x7b\"source_host\":\"\\t\",", "\"source_port\":80,",
      "\"dest_host\":\"a\\u0007\",", "\"dest_port\":443,", "\"bytes\":1500\x7d]\x7d"].flatMap
        String.toList
    Record.ofLine line = .ok ⟨[flow]⟩ ∧ flow ∈ (Record.mk [flow]).flows ∧
      let reporter : Reporter Unit := ⟨jsonLines "flow", Host.Resolver.raw, none⟩
      ∃ text back, (jsonLines "flow").entry (reporter.showFlow flow ⟨(), {}, #[]⟩).1 = .ok text ∧
        Record.ofLine ("\x7b\"flows\":[".toList ++ text.toList ++ "]\x7d".toList) = .ok ⟨[back]⟩ ∧
        (jsonLines "flow").entry (reporter.showFlow back ⟨(), {}, #[]⟩).1 = .ok text := by
  intro flow line
  have hread : Record.ofLine line = .ok ⟨[flow]⟩ := eq_ok_of_toOption (by decide +kernel)
  have hmem : flow ∈ (Record.mk [flow]).flows := List.mem_singleton_self flow
  obtain ⟨-, hback⟩ := jsonLines_fed_back hread hmem "flow"
  obtain ⟨text, back, hline, hof, hagain, -⟩ := hback none (⟨(), {}, #[]⟩ : Desk Unit)
  exact ⟨hread, hmem, text, back, hline, hof, hagain _⟩

end FlowLines.Layout
