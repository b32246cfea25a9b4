import FlowLines.Proofs.Text.Visible
import FlowLines.Text.Blank
import FlowLines.Text.Quoted

/-! A text whose control characters were made visible has none left, so that it is shown as it
is.  Each of them is written as it would be in a literal, wherever it stands. -/

namespace FlowLines.Text

/-- A character as it is written in a literal of printable ASCII. -/
def literalChar (c : Char) : List Char :=
  if c = '\t' then ['\\', 't']
  else if c = '\n' then ['\\', 'n']
  else if c = '\r' then ['\\', 'r']
  else if c ∈ ['\'', '"', '\\'] then ['\\', c]
  else if 0x20 ≤ c.toNat ∧ c.toNat ≤ 0x7E then [c]
  else codePointEscape c

theorem controlEscape_eq_literalChar {c : Char} (h : isControl c) :
    controlEscape c = literalChar c := by
  have hseen : ¬ (0x20 ≤ c.toNat ∧ c.toNat ≤ 0x7E) := by
    rintro ⟨hlow, hhigh⟩
    rw [unseen_isControl c hlow (by omega)] at h
    cases h
  have hmark : c ∉ ['\'', '"', '\\'] := by
    intro hmem
    simp only [List.mem_cons, List.not_mem_nil, or_false] at hmem
    rcases hmem with rfl | rfl | rfl <;> exact absurd h (by decide)
  unfold controlEscape literalChar
  rw [if_neg hmark, if_neg hseen]
  rfl

theorem revealChar_eq (c : Char) :
    revealChar c = if isControl c then literalChar c else [c] := by
  unfold revealChar
  split
  · next h => exact controlEscape_eq_literalChar h
  · rfl

theorem isControl_revealChar {c d : Char} (hd : d ∈ revealChar c) : isControl d = false := by
  by_cases h : isControl c
  · rw [revealChar, if_pos h] at hd
    obtain ⟨hlow, hhigh⟩ := visible_controlEscape c d hd
    exact unseen_isControl d hlow hhigh
  · rw [revealChar, if_neg h, List.mem_singleton] at hd
    rw [hd]
    exact Bool.eq_false_iff.2 h

theorem any_isControl_reveal (s : List Char) : (reveal s).any isControl = false := by
  rw [reveal_eq_flatMap, List.any_eq_false]
  intro d hd
  obtain ⟨c, -, hd⟩ := List.mem_flatMap.1 hd
  rw [isControl_revealChar hd]
  exact Bool.false_ne_true

theorem reveal_of_clean {s : List Char} (h : s.any isControl = false) : reveal s = s := by
  rw [reveal, h]
  rfl

theorem reveal_eq_self_iff {s : List Char} : reveal s = s ↔ s.any isControl = false := by
  constructor
  · intro h
    rw [← h]
    exact any_isControl_reveal s
  · exact reveal_of_clean

theorem reveal_reveal (s : List Char) : reveal (reveal s) = reveal s :=
  reveal_of_clean (any_isControl_reveal s)

theorem reveal_append (s t : List Char) : reveal (s ++ t) = reveal s ++ reveal t := by
  simp only [reveal_eq_flatMap, List.flatMap_append]

theorem backslash_mem_controlEscape (c : Char) : '\\' ∈ controlEscape c := by
  unfold controlEscape
  repeat' split
  all_goals exact List.mem_cons_self

theorem exists_not_isBlank_revealChar {c : Char} (h : isBlank c = false) :
    ∃ d ∈ revealChar c, isBlank d = false := by
  by_cases hc : isControl c
  · refine ⟨'\\', ?_, rfl⟩
    rw [revealChar, if_pos hc]
    exact backslash_mem_controlEscape c
  · refine ⟨c, ?_, h⟩
    rw [revealChar, if_neg hc]
    exact List.mem_cons_self

theorem revealChar_ne_nil (c : Char) : revealChar c ≠ [] := by
  unfold revealChar
  split
  · exact List.ne_nil_of_mem (backslash_mem_controlEscape c)
  · exact List.cons_ne_nil c []

theorem reveal_eq_nil_iff {s : List Char} : reveal s = [] ↔ s = [] := by
  rw [reveal_eq_flatMap, List.flatMap_eq_nil_iff, List.eq_nil_iff_forall_not_mem]
  simp only [revealChar_ne_nil, imp_false]

theorem trimStart_reveal_ne_nil {s : List Char} (h : trimStart s ≠ []) :
    trimStart (reveal s) ≠ [] := by
  intro hnil
  apply h
  rw [reveal_eq_flatMap, trimStart_eq_nil_iff] at hnil
  rw [trimStart_eq_nil_iff]
  intro c hc
  cases hb : isBlank c with
  | true => rfl
  | false =>
    obtain ⟨d, hd, hblank⟩ := exists_not_isBlank_revealChar hb
    rw [hnil d (List.mem_flatMap.2 ⟨c, hc, hd⟩)] at hblank
    cases hblank

/-- Whether a text is copied or handed back, each of its control characters is written as in a
literal and every other character is kept.  So nothing is left to be made visible, and the parts of
a text can be made visible one by one. -/
theorem reveal_charwise (s : List Char) :
    reveal s = s.flatMap (fun c => if isControl c then literalChar c else [c]) ∧
    (reveal s).any isControl = false ∧
    (reveal s = [] ↔ s = []) ∧
    (reveal s = s ↔ s.any isControl = false) ∧
    (∀ t, reveal (s ++ t) = reveal s ++ reveal t) ∧
    reveal (reveal s) = reveal s := by
  have hmap : reveal s = s.flatMap (fun c => if isControl c then literalChar c else [c]) := by
    rw [reveal_eq_flatMap, funext revealChar_eq]
  exact ⟨hmap, any_isControl_reveal s, reveal_eq_nil_iff, reveal_eq_self_iff, reveal_append s,
    reveal_reveal s⟩

example : reveal "a\n\\\u0085".toList = "a\\n\\\\u\x7b85\x7d".toList := by decide

end FlowLines.Text
