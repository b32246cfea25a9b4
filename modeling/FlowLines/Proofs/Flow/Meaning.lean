import FlowLines.Proofs.Flow.Tree
import FlowLines.Proofs.Flow.Sound
import Mathlib.Logic.Relation

/-! A record is what its members mean: neither their order nor what is passed over, neither the
name chosen among the names of a field nor a `null` for an absent value make a difference.  No
field is given twice. -/

namespace FlowLines.Flow

open FlowLines.Json

def Field.names (f : Field) : List String := f.name :: f.aliases

theorem Field.ofName?_eq_some_iff {key : String} {f : Field} :
    Field.ofName? key = some f ↔ key ∈ f.names := by
  constructor
  · intro h
    have hkey := List.find?_some h
    rw [Bool.or_eq_true, decide_eq_true_eq, List.contains_iff_mem] at hkey
    exact List.mem_cons.2 (hkey.imp Eq.symm id)
  · intro h
    have hall : ∀ f : Field, ∀ key ∈ f.names, ofName? key = some f := by
      intro f
      cases f <;> decide
    exact hall f key h

def Field.IsNamed (f : Field) (m : Member) : Prop := ∃ name ∈ f.names, m.key? = some name.toList

instance (f : Field) (m : Member) : Decidable (f.IsNamed m) :=
  inferInstanceAs (Decidable (∃ name ∈ f.names, m.key? = some name.toList))

def IsIgnored (m : Member) : Prop := m.key?.isSome ∧ ∀ f : Field, ¬ f.IsNamed m

theorem Field.IsNamed.unique {f g : Field} {m : Member} (hf : f.IsNamed m) (hg : g.IsNamed m) :
    f = g := by
  obtain ⟨name, hname, hkey⟩ := hf
  obtain ⟨name', hname', hkey'⟩ := hg
  rw [hkey, Option.some.injEq, String.toList_inj] at hkey'
  rw [← hkey', ← Field.ofName?_eq_some_iff] at hname'
  rw [← Field.ofName?_eq_some_iff, hname', Option.some.injEq] at hname
  exact hname.symm

theorem give_of_isNamed {f : Field} {m : Member} (h : f.IsNamed m) (d : Draft) :
    Draft.give.member d m = if (d f).isSome then none else (f.ofTree? m.2).map (d.set f) := by
  obtain ⟨name, hname, hkey⟩ := h
  have hof : Field.ofName? (String.ofList name.toList) = some f := by
    rw [String.ofList_toList]
    exact Field.ofName?_eq_some_iff.2 hname
  simp only [Step.member, Draft.give, hkey, Option.bind_some, hof]

theorem give_of_isIgnored {m : Member} (h : IsIgnored m) (d : Draft) :
    Draft.give.member d m = some d := by
  obtain ⟨hkey, hnone⟩ := h
  obtain ⟨key, hkey⟩ := Option.isSome_iff_exists.1 hkey
  have hof : Field.ofName? (String.ofList key) = none := by
    cases hf : Field.ofName? (String.ofList key) with
    | none => rfl
    | some f =>
      refine absurd ⟨String.ofList key, Field.ofName?_eq_some_iff.1 hf, ?_⟩ (hnone f)
      rw [hkey, String.toList_ofList]
  simp only [Step.member, Draft.give, hkey, Option.bind_some, hof]

theorem give_of_key_none {m : Member} (h : m.key? = none) (d : Draft) :
    Draft.give.member d m = none := by
  simp only [Step.member, h, Option.bind_none]

theorem member_cases (m : Member) : m.key? = none ∨ IsIgnored m ∨ ∃ f : Field, f.IsNamed m := by
  by_cases hnamed : ∃ f : Field, f.IsNamed m
  · exact .inr (.inr hnamed)
  · cases hkey : m.key? with
    | none => exact .inl rfl
    | some key => exact .inr (.inl ⟨by rw [hkey]; rfl, fun f hf => hnamed ⟨f, hf⟩⟩)

theorem give_comm (a b : Member) (d : Draft) :
    (Draft.give.member d a).bind (Draft.give.member · b) =
      (Draft.give.member d b).bind (Draft.give.member · a) := by
  obtain ha | ha | ⟨f, ha⟩ := member_cases a
  · simp [give_of_key_none ha]
  · simp [give_of_isIgnored ha]
  obtain hb | hb | ⟨g, hb⟩ := member_cases b
  · simp [give_of_key_none hb]
  · simp [give_of_isIgnored hb]
  simp only [give_of_isNamed ha, give_of_isNamed hb]
  by_cases hfg : f = g
  · subst hfg
    cases (d f).isSome <;> cases f.ofTree? a.2 <;> cases f.ofTree? b.2 <;> simp
  · have hf (w : g.Value) : (FlowLines.Draft.set d g w) f = d f :=
      FlowLines.Draft.set_of_ne d w (Ne.symm hfg)
    have hg (v : f.Value) : (FlowLines.Draft.set d f v) g = d g :=
      FlowLines.Draft.set_of_ne d v hfg
    have hcomm (v : f.Value) (w : g.Value) := FlowLines.Draft.set_comm d v w hfg
    cases hdf : (d f).isSome <;> cases hdg : (d g).isSome <;> cases f.ofTree? a.2 <;>
      cases g.ofTree? b.2 <;> simp [hf, hg, hdf, hdg, hcomm]

section

variable {α σ : Type} {step : σ → α → Option σ}

theorem foldlM_perm (hcomm : ∀ a b d, (step d a).bind (step · b) = (step d b).bind (step · a))
    {l l' : List α} (h : l.Perm l') : ∀ d, l.foldlM step d = l'.foldlM step d := by
  induction h with
  | nil => exact fun d => rfl
  | cons a _ ih =>
    intro d
    rw [List.foldlM_cons, List.foldlM_cons]
    exact bind_congr ih
  | swap a b l =>
    intro d
    have hswap := hcomm b a d
    simp only [List.foldlM_cons, Option.bind_eq_bind, ← Option.bind_assoc, hswap]
  | trans _ _ ih₁ ih₂ => exact fun d => (ih₁ d).trans (ih₂ d)

theorem foldlM_insert {a : α} (h : ∀ d, step d a = some d) (before after : List α) (d : σ) :
    (before ++ a :: after).foldlM step d = (before ++ after).foldlM step d := by
  rw [List.foldlM_append, List.foldlM_append]
  refine bind_congr fun d' => ?_
  rw [List.foldlM_cons, h d']
  rfl

theorem foldlM_replace {a b : α} (h : ∀ d, step d a = step d b) (before after : List α) (d : σ) :
    (before ++ a :: after).foldlM step d = (before ++ b :: after).foldlM step d := by
  rw [List.foldlM_append, List.foldlM_append]
  refine bind_congr fun d' => ?_
  rw [List.foldlM_cons, List.foldlM_cons, h d']

theorem foldlM_eq_none {a : α} (h : ∀ d, step d a = none) {l : List α} (ha : a ∈ l) (d : σ) :
    l.foldlM step d = none := by
  obtain ⟨before, after, rfl⟩ := List.append_of_mem ha
  rw [List.foldlM_append]
  cases before.foldlM step d with
  | none => rfl
  | some d' =>
    rw [Option.bind_eq_bind, Option.bind_some, List.foldlM_cons, h d']
    rfl

end

theorem isSome_after {f : Field} {ms : List Member} : ∀ {d d' : Draft},
    ms.foldlM Draft.give.member d = some d' →
      (d' f).isSome.toNat = (d f).isSome.toNat + ms.countP (f.IsNamed ·) := by
  induction ms with
  | nil =>
    intro d d' h
    cases h
    rfl
  | cons m ms ih =>
    intro d d' h
    rw [List.foldlM_cons] at h
    obtain ⟨next, hnext, h⟩ := Option.bind_eq_some_iff.1 h
    rw [ih h, List.countP_cons]
    obtain hm | hm | ⟨g, hm⟩ := member_cases m
    · rw [give_of_key_none hm] at hnext
      cases hnext
    · rw [give_of_isIgnored hm] at hnext
      cases hnext
      rw [if_neg (by simpa using hm.2 f), Nat.add_zero]
    · rw [give_of_isNamed hm] at hnext
      split at hnext
      · cases hnext
      next hg =>
      obtain ⟨v, -, rfl⟩ := Option.map_eq_some_iff.1 hnext
      by_cases hfg : f = g
      · subst hfg
        rw [FlowLines.Draft.set_same, if_pos (by simpa using hm), eq_false_of_ne_true hg]
        simp only [Option.isSome_some, Bool.toNat_true, Bool.toNat_false]
        omega
      · have hset : FlowLines.Draft.set d g v f = d f :=
          FlowLines.Draft.set_of_ne d v (Ne.symm hfg)
        have hnot : ¬ f.IsNamed m := fun hf => hfg (hf.unique hm)
        rw [hset, if_neg (by simpa using hnot), Nat.add_zero]

theorem isSome_draft {f : Field} {ms : List Member} {d : Draft}
    (h : ms.foldlM Draft.give.member FlowLines.Draft.empty = some d) :
    (d f).isSome.toNat = ms.countP (f.IsNamed ·) := by
  rw [isSome_after h]
  exact Nat.zero_add _

theorem draft_eq_none {f : Field} {ms : List Member} {d : Draft}
    (h : ms.foldlM Draft.give.member FlowLines.Draft.empty = some d)
    (hnone : ∀ m ∈ ms, ¬ f.IsNamed m) : d f = none := by
  have hcount : ms.countP (f.IsNamed ·) = 0 := by
    rw [List.countP_eq_zero]
    intro m hm
    simpa using hnone m hm
  have hd := isSome_draft (f := f) h
  rw [hcount] at hd
  cases hdf : d f with
  | none => rfl
  | some v =>
    rw [hdf] at hd
    cases hd

inductive Entry.Retold : List Member → List Member → Prop
  | order {ms ns : List Member} : ms.Perm ns → Retold ms ns
  | ignored {before after : List Member} {m : Member} : IsIgnored m →
      Retold (before ++ after) (before ++ m :: after)
  | renamed {before after : List Member} {l l' : Literal} {t : Tree} {f : Field} :
      f.IsNamed (l, t) → f.IsNamed (l', t) →
      Retold (before ++ (l, t) :: after) (before ++ (l', t) :: after)
  | absent {before after : List Member} {l : Literal} {f : Field} : f.absent?.isSome →
      f.IsNamed (l, .null) → (∀ m ∈ before ++ after, ¬ f.IsNamed m) →
      Retold (before ++ after) (before ++ (l, .null) :: after)

theorem toEntry_set_absent {d : Draft} {f : Field} {v : f.Value} (hnone : d f = none)
    (hv : f.absent? = some v) : Draft.toEntry (FlowLines.Draft.set d f v) = d.toEntry := by
  have hget (g : Field) : Draft.get (FlowLines.Draft.set d f v) g = d.get g := by
    by_cases hg : f = g
    · subst hg
      simp [Draft.get, hnone, hv]
    · have hset : FlowLines.Draft.set d f v g = d g := FlowLines.Draft.set_of_ne d v hg
      simp only [Draft.get, hset]
  simp only [Draft.toEntry, hget]

theorem ofTree?_null (f : Field) : f.ofTree? .null = f.absent? := by
  cases f <;> rfl

theorem Entry.ofTree?_absent {before after : List Member} {l : Literal} {f : Field}
    (hf : f.absent?.isSome) (hl : f.IsNamed (l, .null))
    (hnone : ∀ m ∈ before ++ after, ¬ f.IsNamed m) :
    Entry.ofTree? (.object (before ++ (l, .null) :: after)) =
      Entry.ofTree? (.object (before ++ after)) := by
  obtain ⟨v, hv⟩ := Option.isSome_iff_exists.1 hf
  have hlast : (before ++ (l, Tree.null) :: after).Perm ((before ++ after) ++ [(l, .null)]) :=
    List.perm_middle.trans (List.perm_append_singleton _ _).symm
  simp only [ofTree?, draft?]
  rw [foldlM_perm give_comm hlast, List.foldlM_append]
  cases hd : (before ++ after).foldlM Draft.give.member FlowLines.Draft.empty with
  | none => rfl
  | some d =>
    have hdf := draft_eq_none hd hnone
    have hgive : Draft.give.member d (l, .null) = some (FlowLines.Draft.set d f v) := by
      rw [give_of_isNamed hl, hdf, ofTree?_null, hv]
      rfl
    simp only [Option.bind_eq_bind, Option.bind_some, List.foldlM_cons, List.foldlM_nil, hgive]
    exact congrArg Except.toOption (toEntry_set_absent hdf hv)

theorem Entry.ofTree?_retold {ms ns : List Member} (h : Entry.Retold ms ns) :
    Entry.ofTree? (.object ms) = Entry.ofTree? (.object ns) := by
  have hdraft : (∀ d, ms.foldlM Draft.give.member d = ns.foldlM Draft.give.member d) →
      Entry.ofTree? (.object ms) = Entry.ofTree? (.object ns) := by
    intro h
    simp only [ofTree?, draft?, h]
  cases h with
  | order h => exact hdraft (foldlM_perm give_comm h)
  | ignored h => exact hdraft fun d => (foldlM_insert (give_of_isIgnored h) _ _ d).symm
  | renamed h h' =>
    exact hdraft fun d => foldlM_replace
      (fun d' => (give_of_isNamed h d').trans (give_of_isNamed h' d').symm) _ _ d
  | absent hf hl hnone => exact (ofTree?_absent hf hl hnone).symm

/-- A field is given twice, or left out though it may not be. -/
def Entry.Faulty (ms : List Member) : Prop :=
  ∃ f : Field, 1 < ms.countP (f.IsNamed ·) ∨ (f.absent? = none ∧ ∀ m ∈ ms, ¬ f.IsNamed m)

theorem Entry.ofTree?_faulty {ms : List Member} (h : Entry.Faulty ms) :
    Entry.ofTree? (.object ms) = none := by
  obtain ⟨f, h⟩ := h
  simp only [ofTree?, draft?]
  cases hd : ms.foldlM Draft.give.member FlowLines.Draft.empty with
  | none => rfl
  | some d =>
    rcases h with h | ⟨hrequired, hnone⟩
    · have hcount := isSome_draft (f := f) hd
      have hle : (d f).isSome.toNat ≤ 1 := Bool.toNat_le _
      omega
    · have hdf := draft_eq_none hd hnone
      cases he : d.toEntry with
      | error cause => simp [he]
      | ok e =>
        have hget := Draft.toEntry_eq_ok_iff.1 he f
        rw [Draft.get, hdf, hrequired] at hget
        cases hget

def IsFlows (m : Member) : Prop := m.key? = some "flows".toList

instance (m : Member) : Decidable (IsFlows m) :=
  inferInstanceAs (Decidable (m.key? = some "flows".toList))

theorem isFlows_cases (m : Member) :
    m.key? = none ∨ (m.key?.isSome ∧ ¬ IsFlows m) ∨ IsFlows m := by
  by_cases hm : IsFlows m
  · exact .inr (.inr hm)
  · cases hkey : m.key? with
    | none => exact .inl rfl
    | some key => exact .inr (.inl ⟨rfl, hm⟩)

inductive Record.Retold : List Member → List Member → Prop
  | order {ms ns : List Member} : ms.Perm ns → Retold ms ns
  | ignored {before after : List Member} {m : Member} : m.key?.isSome → ¬ IsFlows m →
      Retold (before ++ after) (before ++ m :: after)
  | flow {before after : List Member} {l : Literal} {ts us : List Tree} {ms ns : List Member} :
      l.text? = some "flows".toList → Entry.Retold ms ns →
      Retold (before ++ (l, .list (ts ++ .object ms :: us)) :: after)
        (before ++ (l, .list (ts ++ .object ns :: us)) :: after)

theorem recordGive_of_isFlows {m : Member} (h : IsFlows m) (flows : Option (List Entry)) :
    Record.give.member flows m =
      if flows.isSome then none else (m.2.elements Entry.ofTree?).map some := by
  rw [IsFlows] at h
  simp only [Step.member, h, Option.bind_some, Record.give, if_true]

theorem recordGive_of_ignored {m : Member} (hkey : m.key?.isSome) (h : ¬ IsFlows m)
    (flows : Option (List Entry)) : Record.give.member flows m = some flows := by
  obtain ⟨key, hkey⟩ := Option.isSome_iff_exists.1 hkey
  have hne : key ≠ "flows".toList := fun heq => h (by rw [IsFlows, hkey, heq])
  simp only [Step.member, hkey, Option.bind_some, Record.give, if_neg hne]

theorem recordGive_of_key_none {m : Member} (h : m.key? = none) (flows : Option (List Entry)) :
    Record.give.member flows m = none := by
  simp only [Step.member, h, Option.bind_none]

theorem recordGive_comm (a b : Member) (flows : Option (List Entry)) :
    (Record.give.member flows a).bind (Record.give.member · b) =
      (Record.give.member flows b).bind (Record.give.member · a) := by
  obtain ha | ⟨hkey, ha⟩ | ha := isFlows_cases a
  · simp [recordGive_of_key_none ha]
  · simp [recordGive_of_ignored hkey ha]
  obtain hb | ⟨hkey, hb⟩ | hb := isFlows_cases b
  · simp [recordGive_of_key_none hb]
  · simp [recordGive_of_ignored hkey hb]
  simp only [recordGive_of_isFlows ha, recordGive_of_isFlows hb]
  cases flows.isSome <;> cases a.2.elements Entry.ofTree? <;> cases b.2.elements Entry.ofTree? <;>
    simp

theorem elements_replace {ts us : List Tree} {t t' : Tree}
    (h : Entry.ofTree? t = Entry.ofTree? t') :
    (Tree.list (ts ++ t :: us)).elements Entry.ofTree? =
      (Tree.list (ts ++ t' :: us)).elements Entry.ofTree? := by
  simp only [Tree.elements, List.mapM_append, List.mapM_cons, h]

theorem Record.ofTree?_retold {ms ns : List Member} (h : Record.Retold ms ns) :
    Record.ofTree? (.object ms) = Record.ofTree? (.object ns) := by
  have hfold : (∀ d, ms.foldlM Record.give.member d = ns.foldlM Record.give.member d) →
      Record.ofTree? (.object ms) = Record.ofTree? (.object ns) := by
    intro h
    simp only [ofTree?, h]
  cases h with
  | order h => exact hfold (foldlM_perm recordGive_comm h)
  | ignored hkey h =>
    exact hfold fun d => (foldlM_insert (recordGive_of_ignored hkey h) _ _ d).symm
  | @flow before after l ts us ms ns hl h =>
    have hkey (t : Tree) : IsFlows (l, t) := hl
    refine hfold fun d => foldlM_replace (fun flows => ?_) before after d
    rw [recordGive_of_isFlows (hkey _), recordGive_of_isFlows (hkey _),
      elements_replace (Entry.ofTree?_retold h)]

inductive Record.Flows : Tree → List Tree → Prop
  | object {ms : List Member} {l : Literal} {ts : List Tree} : (l, Tree.list ts) ∈ ms →
      l.text? = some "flows".toList → Flows (.object ms) ts
  | list {ts : List Tree} : Flows (.list [.list ts]) ts

theorem elements_eq_none {ts : List Tree} {t : Tree} (ht : t ∈ ts) (h : Entry.ofTree? t = none) :
    (Tree.list ts).elements Entry.ofTree? = none := by
  obtain ⟨before, after, rfl⟩ := List.append_of_mem ht
  simp only [Tree.elements, List.mapM_append, List.mapM_cons, h]
  cases before.mapM Entry.ofTree? <;> rfl

theorem Record.ofTree?_eq_none {t u : Tree} {ts : List Tree} (h : Record.Flows t ts) (hu : u ∈ ts)
    (hnone : Entry.ofTree? u = none) : Record.ofTree? t = none := by
  have helements := elements_eq_none hu hnone
  cases h with
  | @object ms l ts hm hl =>
    have hkey : IsFlows (l, .list ts) := hl
    have hgive (d : Option (List Entry)) : Record.give.member d (l, .list ts) = none := by
      rw [recordGive_of_isFlows hkey, helements]
      split <;> rfl
    rw [ofTree?, foldlM_eq_none hgive hm]
    rfl
  | list =>
    rw [ofTree?, helements]
    rfl

/-- A record that is told again, step after step, is the same record.  One with a faulty flow is
refused, wherever the faulty members stand. -/
theorem Record.ofLine_retold :
    (∀ {ms ns : List Member} {line line' : List Char}, Holds line (.object ms) →
      Holds line' (.object ns) → Relation.EqvGen Record.Retold ms ns →
      ∀ record, Record.ofLine line = .ok record ↔ Record.ofLine line' = .ok record) ∧
    (∀ {t : Tree} {ts : List Tree} {ms : List Member} {line : List Char}, Holds line t →
      Record.Flows t ts → .object ms ∈ ts → Entry.Faulty ms →
      ∀ record, Record.ofLine line ≠ .ok record) := by
  constructor
  · intro ms ns line line' hline hline' h record
    have hsame : Record.ofTree? (.object ms) = Record.ofTree? (.object ns) := by
      clear hline hline'
      induction h with
      | rel _ _ h => exact Record.ofTree?_retold h
      | refl => rfl
      | symm _ _ _ ih => exact ih.symm
      | trans _ _ _ _ _ ih₁ ih₂ => exact ih₁.trans ih₂
    have hread : (Record.ofLine line).toOption = (Record.ofLine line').toOption := by
      rw [Record.ofLine_of_holds hline, Record.ofLine_of_holds hline', hsame]
    constructor
    · intro h
      rw [h] at hread
      exact eq_ok_of_toOption hread.symm
    · intro h
      rw [h] at hread
      exact eq_ok_of_toOption hread
  · intro t ts ms line hline hflows hm hfaulty record h
    have hnone := Record.ofTree?_eq_none hflows hm (Entry.ofTree?_faulty hfaulty)
    rw [← Record.ofLine_of_holds hline, h] at hnone
    cases hnone

theorem holds_of_takeTokens {line : List Char} {t : Tree}
    (h : takeTokens t.tokens (Text.trim line) = some []) : Holds line t :=
  ⟨[], lays_of_takeTokens h, by simp⟩

def told (key value : String) : Member := (.ofString key, .text (.ofString value))

def counted (key : String) (n : Nat) : Member := (.ofString key, .ofNat n)

def flowsOf (ms : List Member) : Member := (.ofString "flows", .list [.object ms])

def plainFlow : List Member :=
  [told "source_host" "a", counted "source_port" 1, told "dest_host" "b", counted "dest_port" 2,
    counted "bytes" 3]

def retoldFlow : List Member :=
  [counted "num_octets" 3, (.ofString "tos", .null), told "source_host" "a",
    counted "source_port" 1, told "dest_host" "b", counted "dest_port" 2]

def faultyFlow : List Member := counted "byte_count" 3 :: plainFlow

def plainLine : List Char :=
  ["\x7b\"flows\":[\x7b\"source_host\":\"a\",\"source_port\":1,", "\"dest_host\":\"b\",",
    "\"dest_port\":2,\"bytes\":3\x7d]\x7d"].flatMap String.toList

def retoldLine : List Char :=
  [" \x7b\"seen\": [\x7b\x7d], \"flows\": [\x7b \"num_octets\" : 3, \"tos\":null, ",
    "\"source_host\":\"a\",\"source_port\":1,\"dest_host\":\"b\",",
    "\"dest_port\":2\x7d]\x7d\n"].flatMap String.toList

def faultyLine : List Char :=
  ["\x7b\"flows\":[\x7b\"byte_count\":3,\"source_host\":\"a\",\"source_port\":1,",
    "\"dest_host\":\"b\",\"dest_port\":2,\"bytes\":3\x7d]\x7d"].flatMap String.toList

theorem retold_of_flow {ms ns : List Member} (h : Entry.Retold ms ns) :
    Record.Retold [flowsOf ms] [flowsOf ns] := by
  have hkey : (Literal.ofString "flows").text? = some "flows".toList := by decide
  have hrecord : Record.Retold
      ([] ++ (Literal.ofString "flows", Tree.list ([] ++ .object ms :: [])) :: [])
      ([] ++ (Literal.ofString "flows", Tree.list ([] ++ .object ns :: [])) :: []) := .flow hkey h
  exact hrecord

theorem retold_plainFlow : Relation.EqvGen Record.Retold [flowsOf plainFlow]
    [(.ofString "seen", .list [.object []]), flowsOf retoldFlow] := by
  let rest := plainFlow.dropLast
  have horder : Entry.Retold (rest ++ [counted "bytes" 3]) (counted "bytes" 3 :: rest) :=
    .order (List.perm_append_singleton _ _)
  have hname :
      Entry.Retold ([] ++ counted "bytes" 3 :: rest) ([] ++ counted "num_octets" 3 :: rest) :=
    .renamed (f := .byteCount) (by decide) (by decide)
  have habsent : Entry.Retold ([counted "num_octets" 3] ++ rest)
      ([counted "num_octets" 3] ++ (.ofString "tos", .null) :: rest) :=
    .absent (f := .tos) rfl (by decide) (by decide)
  have hseen : Record.Retold ([] ++ [flowsOf retoldFlow])
      ([] ++ (.ofString "seen", .list [.object []]) :: [flowsOf retoldFlow]) :=
    .ignored (by decide) (by decide)
  exact .trans _ _ _ (.rel _ _ (retold_of_flow horder))
    (.trans _ _ _ (.rel _ _ (retold_of_flow hname))
      (.trans _ _ _ (.rel _ _ (retold_of_flow habsent)) (.rel _ _ hseen)))

theorem Record.ofLine_retold_octets :
    (Record.ofLine plainLine).toOption.isSome ∧
    (∀ record, Record.ofLine plainLine = .ok record ↔ Record.ofLine retoldLine = .ok record) ∧
    ∀ record, Record.ofLine faultyLine ≠ .ok record := by
  have hplain : Holds plainLine (.object [flowsOf plainFlow]) :=
    holds_of_takeTokens (by decide +kernel)
  have hretold : Holds retoldLine
      (.object [(.ofString "seen", .list [.object []]), flowsOf retoldFlow]) :=
    holds_of_takeTokens (by decide +kernel)
  have hfaulty : Holds faultyLine (.object [flowsOf faultyFlow]) :=
    holds_of_takeTokens (by decide +kernel)
  have hflows : Record.Flows (.object [flowsOf faultyFlow]) [.object faultyFlow] :=
    .object List.mem_cons_self (by decide)
  refine ⟨by decide +kernel, Record.ofLine_retold.1 hplain hretold retold_plainFlow, ?_⟩
  exact Record.ofLine_retold.2 hfaulty hflows List.mem_cons_self ⟨.byteCount, .inl (by decide)⟩

end FlowLines.Flow
