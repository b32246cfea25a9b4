import FlowLines.Proofs.Feed.FailFast
import Mathlib.Data.List.Basic

/-! A run looks at nothing of its lines but at what they say. -/

namespace FlowLines.Feed

open FlowLines.Flow (Record)

variable {σ : Type}

structure Blank (limit : Nat) (line : List UInt8) : Prop where
  fits : (dropReturn line).length ≤ limit
  blank : ∃ text, dropReturn line = Text.Utf8.encode text ∧ ∀ c ∈ text, Text.isBlank c

theorem decodeLine_eq_none_iff {limit : Nat} {line : List UInt8} :
    decodeLine limit line = .ok none ↔ Blank limit line := by
  constructor
  · intro h
    have said := says_decodeLine limit line
    rw [h] at said
    cases said with
    | blank fits spelled blank => exact ⟨fits, _, spelled, blank⟩
  · rintro ⟨fits, text, spelled, blank⟩
    simp [decodeLine, Nat.not_lt.2 fits, Text.Utf8.decode_eq_ok_iff.2 spelled,
      isEmpty_trimStart_iff.2 blank]

instance (limit : Nat) (line : List UInt8) : Decidable (Blank limit line) :=
  match h : decodeLine limit line with
  | .ok none => .isTrue (decodeLine_eq_none_iff.1 h)
  | .ok (some _) => .isFalse fun blank => nomatch h.symm.trans (decodeLine_eq_none_iff.2 blank)
  | .error _ => .isFalse fun blank => nomatch h.symm.trans (decodeLine_eq_none_iff.2 blank)

def record? (limit : Nat) (line : List UInt8) : Option Record :=
  (decodeLine limit line).toOption.join

theorem records_map (limit : Nat) (lines : List (List UInt8)) :
    records (lines.map (decodeLine limit)) = lines.filterMap (record? limit) := List.filterMap_map

theorem record?_eq_none_iff {limit : Nat} {line : List UInt8} :
    record? limit line = none ↔ Malformed limit line ∨ Blank limit line := by
  rw [← decodeLine_eq_none_iff, record?, Malformed]
  match decodeLine limit line with
  | .ok none => simp [Except.toOption]
  | .ok (some record) => simp [Except.toOption]
  | .error fault => simp [Except.toOption]

theorem records_filter {limit : Nat} {p : List UInt8 → Bool}
    (h : ∀ line, p line = false → record? limit line = none) (lines : List (List UInt8)) :
    records ((lines.filter p).map (decodeLine limit)) = records (lines.map (decodeLine limit)) := by
  rw [records_map, records_map, List.filterMap_filter]
  apply List.filterMap_congr
  intro line _
  cases hp : p line with
  | false => rw [if_neg Bool.false_ne_true, h line hp]
  | true => rw [if_pos rfl]

theorem length_faults_map (limit : Nat) (lines : List (List UInt8)) :
    (faults (lines.map (decodeLine limit))).length = lines.countP (Malformed limit ·) := by
  rw [faults, List.filterMap_map, List.length_filterMap_eq_countP]
  apply List.countP_congr
  intro line _
  rw [decide_eq_true_eq, Malformed, Function.comp_apply]
  match decodeLine limit line with
  | .ok record? => simp
  | .error fault => simp

theorem length_read_singleton (limit : Nat) (line : List UInt8) :
    (records [decodeLine limit line]).length + (faults [decodeLine limit line]).length =
      if ¬ Blank limit line then 1 else 0 := by
  by_cases blank : Blank limit line
  · rw [if_neg (not_not_intro blank), decodeLine_eq_none_iff.2 blank]
    rfl
  · rw [if_pos blank]
    match hd : decodeLine limit line with
    | .ok none => exact absurd (decodeLine_eq_none_iff.1 hd) blank
    | .ok (some record) => rfl
    | .error fault => rfl

theorem length_read_map (limit : Nat) (lines : List (List UInt8)) :
    (records (lines.map (decodeLine limit))).length +
      (faults (lines.map (decodeLine limit))).length = lines.countP (¬ Blank limit ·) := by
  induction lines with
  | nil => rfl
  | cons line lines ih =>
    have hline := length_read_singleton limit line
    rw [List.countP_cons, ← ih, List.map_cons, ← List.singleton_append, records_append,
      faults_append, List.length_append, List.length_append]
    simp only [decide_eq_true_eq, ← hline]
    omega

namespace Run

variable (r : Run σ)

def enter (p : Progress σ) (saying : Saying) : Progress σ :=
  match p.status with
  | .running =>
    let p := { p with linesSeen := p.linesSeen + 1 }
    match saying with
    | .ok none => p
    | .ok (some record) => r.takeRecord record p
    | .error fault =>
      if r.rules.failFast then { p with status := .failed (.line p.linesSeen fault) }
      else
        { p with
          tally := p.tally.addMalformed
          desk := p.desk.note (.skippedLine r.source p.linesSeen fault) }
  | _ => p

theorem take_line_eq_enter (p : Progress σ) (line : List UInt8) :
    r.take p (.line line) = r.enter p (decodeLine r.rules.maxLineLength line) := rfl

theorem takeAll_lines_eq_foldl (lines : List (List UInt8)) (p : Progress σ) :
    r.takeAll (lines.map .line) p =
      (lines.map (decodeLine r.rules.maxLineLength)).foldl r.enter p := by
  rw [takeAll, List.foldl_map, List.foldl_map]
  rfl

theorem enter_blank (p : Progress σ) :
    (r.enter p (.ok none)).desk = p.desk ∧ (r.enter p (.ok none)).outcome = p.outcome := by
  obtain ⟨desk, status, linesSeen, tally⟩ := p
  cases status <;> exact ⟨rfl, rfl⟩

end Run

theorem run_congr (f : Feed) (reporter : Reporter σ) (source : String)
    {parts parts' : List (List UInt8)} (desk : Desk σ)
    (same : (lines parts'.flatten).map (decodeLine f.rules.maxLineLength) =
      (lines parts.flatten).map (decodeLine f.rules.maxLineLength)) :
    f.run reporter source (parts'.map .bytes) desk =
      f.run reporter source (parts.map .bytes) desk := by
  simp only [run, runPieces, cut_bytes, Run.takeAll_lines_eq_foldl, same]

theorem run_concat_blank (f : Feed) (reporter : Reporter σ) (source : String)
    {parts parts' : List (List UInt8)} (desk : Desk σ)
    (more : (lines parts'.flatten).map (decodeLine f.rules.maxLineLength) =
      (lines parts.flatten).map (decodeLine f.rules.maxLineLength) ++ [.ok none]) :
    f.run reporter source (parts'.map .bytes) desk =
      f.run reporter source (parts.map .bytes) desk := by
  let r : Run σ := ⟨f.rules, reporter, source⟩
  let p := r.takeAll (cut (parts.map .bytes)) { desk }
  obtain ⟨hdesk, houtcome⟩ := r.enter_blank p
  have hp : r.takeAll (cut (parts'.map .bytes)) { desk } = r.enter p (.ok none) := by
    simp only [p, r, cut_bytes, Run.takeAll_lines_eq_foldl, more, List.foldl_append,
      List.foldl_cons, List.foldl_nil]
  rw [run_of_takeAll hp, run_of_takeAll (show r.takeAll (cut (parts.map .bytes)) _ = p from rfl),
    hdesk, houtcome]

end FlowLines.Feed
