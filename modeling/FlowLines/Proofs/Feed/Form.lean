import FlowLines.Proofs.Feed.FailFast
import FlowLines.Proofs.Flow.Meaning

/-! What a line has to look like.  A flow is told by names, or by a list of its values in their
order, and a record likewise.  Every other line is malformed. -/

namespace FlowLines.Flow

open FlowLines.Json

def Field.required : List Field := [.sourceHost, .sourcePort, .destHost, .destPort, .byteCount]

/-- No field is given twice, and those that have to be given are given. -/
def Entry.ByName (t : Tree) : Prop :=
  ∃ ms : List Member, t = .object ms ∧ (∀ f : Field, ms.countP (f.IsNamed ·) ≤ 1) ∧
    ∀ f ∈ Field.required, ∃ m ∈ ms, f.IsNamed m

/-- The values of the fields with no names, and all that have to be given. -/
def Entry.InOrder (t : Tree) : Prop :=
  ∃ ts : List Tree, t = .list ts ∧ Field.required.length ≤ ts.length ∧
    ts.length ≤ Field.all.length

def Entry.Formed (t : Tree) : Prop := Entry.ByName t ∨ Entry.InOrder t

inductive Record.Formed : Tree → Prop
  | byName {ms : List Member} : ms.countP (IsFlows ·) ≤ 1 →
      (∀ m ∈ ms, IsFlows m → ∃ ts, m.2 = .list ts ∧ ∀ t ∈ ts, Entry.Formed t) →
      Formed (.object ms)
  | empty : Formed (.list [])
  | inOrder {ts : List Tree} : (∀ t ∈ ts, Entry.Formed t) → Formed (.list [.list ts])

theorem Holds.trimStart_ne_nil {text : List Char} {t : Tree} (h : Holds text t) :
    Text.trimStart text ≠ [] := by
  intro hnil
  obtain ⟨r, h, -⟩ := h
  rw [Text.trim, hnil, Text.trimEnd_nil] at h
  obtain ⟨c, s, hs, -⟩ := h.begins
  cases hs

theorem Field.absent?_eq_none_of_required {f : Field} (h : f ∈ Field.required) :
    f.absent? = none := by
  cases f <;> first | rfl | simp [required] at h

theorem fill_length {fs : List Field} : ∀ {d d' : Draft} {ts : List Tree},
    Draft.fill fs d ts = some d' →
      ts.length ≤ fs.length ∧ ∀ f, fs[ts.length]? = some f → f.absent?.isSome := by
  induction fs with
  | nil =>
    intro d d' ts h
    cases ts with
    | nil => exact ⟨Nat.le_refl 0, nofun⟩
    | cons t ts => cases h
  | cons f fs ih =>
    intro d d' ts h
    cases ts with
    | nil =>
      rw [Draft.fill] at h
      split at h
      · next habsent =>
        refine ⟨Nat.zero_le _, fun g hg => ?_⟩
        cases hg
        exact habsent
      · cases h
    | cons t ts =>
      obtain ⟨v, -, h⟩ := Option.bind_eq_some_iff.1 h
      obtain ⟨hle, hnext⟩ := ih h
      exact ⟨Nat.succ_le_succ hle, hnext⟩

theorem Entry.formed_of_ofTree? {t : Tree} {e : Entry} (h : Entry.ofTree? t = some e) :
    Entry.Formed t := by
  obtain ⟨d, hd, he⟩ := Option.bind_eq_some_iff.1 h
  cases t with
  | object ms =>
    refine .inl ⟨ms, rfl, fun f => ?_, fun f hf => ?_⟩
    · rw [← isSome_draft hd]
      exact Bool.toNat_le _
    · by_contra hnone
      have hfaulty : Entry.Faulty ms :=
        ⟨f, .inr ⟨Field.absent?_eq_none_of_required hf, fun m hm hnamed => hnone ⟨m, hm, hnamed⟩⟩⟩
      rw [Entry.ofTree?_faulty hfaulty] at h
      cases h
  | list ts =>
    obtain ⟨hle, hnext⟩ := fill_length hd
    refine .inr ⟨ts, rfl, ?_, hle⟩
    by_contra hlt
    have hrequired : ∃ f ∈ Field.required, Field.all[ts.length]? = some f := by
      have hlength : ts.length < Field.required.length := Nat.lt_of_not_le hlt
      refine ⟨Field.required[ts.length], List.getElem_mem hlength, ?_⟩
      have hsplit : Field.all = Field.required ++ Field.all.drop Field.required.length := rfl
      rw [hsplit, List.getElem?_append_left hlength, List.getElem?_eq_getElem hlength]
    obtain ⟨f, hf, hget⟩ := hrequired
    have habsent := hnext f hget
    rw [Field.absent?_eq_none_of_required hf] at habsent
    cases habsent
  | _ => cases hd

theorem formed_of_elements {t : Tree} {flows : List Entry}
    (h : t.elements Entry.ofTree? = some flows) :
    ∃ ts, t = .list ts ∧ ∀ u ∈ ts, Entry.Formed u := by
  cases t with
  | list ts =>
    refine ⟨ts, rfl, fun u hu => ?_⟩
    cases he : Entry.ofTree? u with
    | none =>
      rw [elements_eq_none hu he] at h
      cases h
    | some e => exact Entry.formed_of_ofTree? he
  | _ => cases h

theorem flows_of_foldlM {ms : List Member} : ∀ {known last : Option (List Entry)},
    ms.foldlM Record.give.member known = some last →
      known.isSome.toNat + ms.countP (IsFlows ·) ≤ 1 ∧
      ∀ m ∈ ms, IsFlows m → ∃ flows, m.2.elements Entry.ofTree? = some flows := by
  induction ms with
  | nil =>
    intro known last h
    exact ⟨Bool.toNat_le _, nofun⟩
  | cons m ms ih =>
    intro known last h
    rw [List.foldlM_cons] at h
    obtain ⟨next, hnext, h⟩ := Option.bind_eq_some_iff.1 h
    obtain ⟨hcount, hflows⟩ := ih h
    rw [List.countP_cons, List.forall_mem_cons]
    obtain hm | ⟨hkey, hm⟩ | hm := isFlows_cases m
    · rw [recordGive_of_key_none hm] at hnext
      cases hnext
    · rw [recordGive_of_ignored hkey hm] at hnext
      cases hnext
      rw [if_neg (by simpa using hm), Nat.add_zero]
      exact ⟨hcount, fun h => absurd h hm, hflows⟩
    · rw [recordGive_of_isFlows hm] at hnext
      split at hnext
      · cases hnext
      next hnone =>
      obtain ⟨flows, helements, rfl⟩ := Option.map_eq_some_iff.1 hnext
      rw [if_pos (by simpa using hm), eq_false_of_ne_true hnone]
      refine ⟨?_, fun _ => ⟨flows, helements⟩, hflows⟩
      simp only [Option.isSome_some, Bool.toNat_true, Bool.toNat_false] at hcount ⊢
      omega

theorem Record.formed_of_ofTree? {t : Tree} {record : Record}
    (h : Record.ofTree? t = some record) : Record.Formed t := by
  unfold Record.ofTree? at h
  split at h
  · obtain ⟨flows, hfold, -⟩ := Option.map_eq_some_iff.1 h
    obtain ⟨hcount, hflows⟩ := flows_of_foldlM hfold
    refine .byName (by simpa using hcount) fun m hm hkey => ?_
    obtain ⟨flows, helements⟩ := hflows m hm hkey
    exact formed_of_elements helements
  · exact .empty
  · obtain ⟨flows, helements, -⟩ := Option.map_eq_some_iff.1 h
    obtain ⟨ts, rfl, hts⟩ := formed_of_elements helements
    exact .inOrder hts
  · cases h

end FlowLines.Flow

namespace FlowLines.Feed

open FlowLines.Json FlowLines.Flow

variable {σ : Type}

/-- A line that is a record has the form of one.  A line that holds a tree of any other form is
malformed: it ends the run where malformed lines do, and is counted and passed over elsewhere. -/
theorem formed_or_malformed :
    (∀ {text : List Char} {record : Record}, Record.ofLine text = .ok record →
      ∃ t, Holds text t ∧ Record.Formed t) ∧
    ∀ (r : Run σ) {p : Progress σ} {line : List UInt8} {text : List Char} {t : Tree},
      p.status = .running → (dropReturn line).length ≤ r.rules.maxLineLength →
      Text.Utf8.decode (dropReturn line) = .ok text → Holds text t → ¬ Record.Formed t →
      ∃ fault, r.take p (.line line) =
        if r.rules.failFast then
          { p with
            linesSeen := p.linesSeen + 1
            status := .failed (.line (p.linesSeen + 1) fault) }
        else
          { p with
            linesSeen := p.linesSeen + 1
            tally := p.tally.addMalformed
            desk := p.desk.note (.skippedLine r.source (p.linesSeen + 1) fault) } := by
  constructor
  · intro text record h
    obtain ⟨t, ht, hrecord⟩ := Record.ofLine_eq_ok_iff.1 h
    exact ⟨t, ht, Record.formed_of_ofTree? hrecord⟩
  · intro r p line text t running fits decoded ht hform
    have hnone : (Record.ofLine text).toOption = none := by
      rw [Record.ofLine_of_holds ht]
      cases hrecord : Record.ofTree? t with
      | none => rfl
      | some record => exact absurd (Record.formed_of_ofTree? hrecord) hform
    have hshown : (Text.trimStart text).isEmpty = false := by
      rw [List.isEmpty_eq_false_iff]
      exact ht.trimStart_ne_nil
    cases hfault : Record.ofLine text with
    | ok record =>
      rw [hfault] at hnone
      cases hnone
    | error fault =>
      have hdecode : decodeLine r.rules.maxLineLength line = .error (.notRecord fault) := by
        simp only [decodeLine, if_neg (Nat.not_lt.2 fits), decoded, hshown, hfault]
        rfl
      refine ⟨.notRecord fault, ?_⟩
      rw [Run.take_line_of_running r running]
      simp only [Run.takeLine, hdecode]

theorem formed_or_malformed_number :
    let run : Run Unit := { rules := {}, reporter := ⟨Layout.line "x", Host.Resolver.raw, none⟩ }
    let inOrder := "[[[\"a\",1,\"b\",2,3]]]".toList
    (∃ record, Record.ofLine inOrder = .ok record ∧ ∃ t, Holds inOrder t ∧ Record.Formed t) ∧
    ∃ fault, run.take { desk := { memory := () } } (.line (Text.Utf8.encode "7".toList)) =
      { desk := ({ memory := () } : Desk Unit).note (.skippedLine standardInput 1 fault)
        linesSeen := 1
        tally := Tally.addMalformed {} } := by
  intro run inOrder
  have hread : (Record.ofLine inOrder).toOption.isSome := by decide +kernel
  obtain ⟨record, hrecord⟩ := Option.isSome_iff_exists.1 hread
  have hok := eq_ok_of_toOption hrecord
  have hseven : Holds "7".toList (Tree.ofNat 7) := holds_of_takeTokens (by decide +kernel)
  have hform : ¬ Record.Formed (Tree.ofNat 7) := nofun
  have hdecode : Text.Utf8.decode (dropReturn (Text.Utf8.encode "7".toList)) = .ok "7".toList :=
    eq_ok_of_toOption (by decide +kernel)
  obtain ⟨accepted, refused⟩ := @formed_or_malformed Unit
  obtain ⟨fault, htake⟩ := refused run (p := { desk := { memory := () } }) rfl
    (by decide +kernel) hdecode hseven hform
  exact ⟨⟨record, hok, accepted hok⟩, fault, htake⟩

/-- A list is read as a record, and not as a malformed one. -/
theorem formed_list :
    let reporter : Reporter Unit := ⟨Layout.line "x", Host.Resolver.raw, none⟩
    Record.ofLine "[]".toList = .ok {} ∧ (∀ ms, ¬ Holds "[]".toList (.object ms)) ∧
    (({} : Feed).run reporter standardInput [.bytes (Text.Utf8.encode "[]".toList)]
      { memory := () }).1.toOption = some { recordsRead := 1 } := by
  intro reporter
  refine ⟨eq_ok_of_toOption (by decide +kernel), fun ms h => ?_, by decide +kernel⟩
  obtain ⟨r, h, -⟩ := h
  obtain ⟨s, hs, -⟩ := Lays.object.1 h
  have hbracket : skipSpace (Text.trim "[]".toList) = "[]".toList := by decide
  rw [hbracket] at hs
  cases hs

end FlowLines.Feed
