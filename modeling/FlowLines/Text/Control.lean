import FlowLines.Text.Digits

/-! Control characters, and their replacement by visible escapes so that a text stays on one
line. -/

namespace FlowLines.Text

/-- The characters of the Unicode category `Cc`. -/
def isControl (c : Char) : Bool :=
  c.toNat < 0x20 || (0x7F ≤ c.toNat && c.toNat ≤ 0x9F)

def controlEscape (c : Char) : List Char :=
  if c = '\t' then ['\\', 't']
  else if c = '\n' then ['\\', 'n']
  else if c = '\r' then ['\\', 'r']
  else ['\\', 'u', '{'] ++ hex c.toNat ++ ['}']

def revealChar (c : Char) : List Char := if isControl c then controlEscape c else [c]

/-- A text without controls is handed back as it is, which saves the copy for nearly all texts. -/
def reveal (s : List Char) : List Char :=
  if s.any isControl then s.flatMap revealChar else s

@[simp] theorem reveal_nil : reveal [] = [] := rfl

theorem flatMap_revealChar_of_clean {s : List Char} (h : s.any isControl = false) :
    s.flatMap revealChar = s := by
  induction s with
  | nil => rfl
  | cons c r ih =>
    simp only [List.any_cons, Bool.or_eq_false_iff] at h
    simp [revealChar, h.1, ih h.2]

theorem reveal_eq_flatMap (s : List Char) : reveal s = s.flatMap revealChar := by
  unfold reveal
  split
  · rfl
  · next h => exact (flatMap_revealChar_of_clean (by simpa using h)).symm

end FlowLines.Text
