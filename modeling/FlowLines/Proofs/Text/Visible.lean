import FlowLines.Proofs.Text.Digits
import FlowLines.Text.Control
import FlowLines.Time.Instant

/-! Printable ASCII, in which numbers, instants and everything else that formats write of their own
is written.  A filter for other characters leaves nothing of it. -/

namespace FlowLines

namespace Text

def Visible (s : List Char) : Prop := ∀ c ∈ s, 0x20 ≤ c.toNat ∧ c.toNat < 0x7F

instance (s : List Char) : Decidable (Visible s) :=
  List.decidableBAll (fun c : Char => 0x20 ≤ c.toNat ∧ c.toNat < 0x7F) s

@[simp] theorem visible_nil : Visible [] := by simp [Visible]

@[simp] theorem visible_cons {c : Char} {s : List Char} :
    Visible (c :: s) ↔ (0x20 ≤ c.toNat ∧ c.toNat < 0x7F) ∧ Visible s := List.forall_mem_cons

@[simp] theorem visible_append {s t : List Char} : Visible (s ++ t) ↔ Visible s ∧ Visible t :=
  List.forall_mem_append

theorem visible_of_digits {s : List Char} (h : ∀ c ∈ s, isDigit c) : Visible s := by
  intro c hc
  have hdigit := toNat_of_isDigit (h c hc)
  omega

theorem visible_decimal (n : Nat) : Visible (decimal n) :=
  visible_of_digits fun _ => isDigit_of_mem_decimal

theorem visible_padLeft {s : List Char} (h : Visible s) (w : Nat) : Visible (padLeft w s) := by
  refine visible_append.2 ⟨?_, h⟩
  intro c hc
  rw [List.eq_of_mem_replicate hc]
  decide

theorem visible_padded (w n : Nat) : Visible (padLeft w (decimal n)) :=
  visible_padLeft (visible_decimal n) w

theorem visible_hex (n : Nat) : Visible (hex n) := by
  have hdigit : ∀ d < 16, Visible [d.digitChar] := by decide
  induction n using Nat.strongRecOn with
  | ind n ih =>
    rw [hex, Nat.toDigits_eq_if (by decide)]
    split
    · next h => exact hdigit n h
    · exact visible_append.2 ⟨ih (n / 16) (by omega), hdigit (n % 16) (by omega)⟩

theorem visible_controlEscape (c : Char) : Visible (controlEscape c) := by
  unfold controlEscape
  repeat' split
  · decide
  · decide
  · decide
  · exact visible_append.2 ⟨visible_append.2 ⟨by decide, visible_hex c.toNat⟩, by decide⟩

end Text

namespace Time

open FlowLines.Text

theorem visible_writeYear (year : Int) : Visible (writeYear year) := by
  have h := visible_padded 4 year.natAbs
  unfold writeYear
  dsimp only
  split
  · exact visible_cons.2 ⟨by decide, h⟩
  split
  · exact visible_cons.2 ⟨by decide, h⟩
  · exact h

theorem visible_writeFraction (nano : Nat) : Visible (writeFraction nano) := by
  unfold writeFraction
  split
  · exact visible_nil
  split
  · exact visible_cons.2 ⟨by decide, visible_padded _ _⟩
  split <;> exact visible_cons.2 ⟨by decide, visible_padded _ _⟩

theorem Instant.visible_write (zero : ZeroOffset) (i : Instant) : Visible (i.write zero) := by
  have hzero : Visible zero.text := by cases zero <;> decide
  have hmarks : Visible ['-', ':', 'T'] := by decide
  simp only [visible_cons, visible_nil, and_true] at hmarks
  simp only [Instant.write, LocalTime.write, visible_append, visible_cons, visible_padded,
    visible_writeYear, visible_writeFraction, hmarks, hzero, and_self]

end Time

namespace Text

/-- A kind of characters, none of which is printable ASCII. -/
def Unseen (p : Char → Bool) : Prop := ∀ c, 0x20 ≤ c.toNat → c.toNat < 0x7F → p c = false

namespace Unseen

variable {p : Char → Bool} (hp : Unseen p)

include hp

theorem and (q : Char → Bool) : Unseen fun c => p c && q c := by
  intro c hlow hhigh
  dsimp only
  rw [hp c hlow hhigh, Bool.false_and]

theorem filter_visible {s : List Char} (h : Visible s) : s.filter p = [] := by
  rw [List.filter_eq_nil_iff]
  intro c hc
  rw [hp c (h c hc).1 (h c hc).2]
  exact Bool.false_ne_true

end Unseen

theorem unseen_isControl : Unseen isControl := by
  intro c hlow hhigh
  simp only [isControl, Bool.or_eq_false_iff, Bool.and_eq_false_iff, decide_eq_false_iff_not]
  omega

def isBreak (c : Char) : Bool := c = '\n' || c = '\r'

theorem unseen_isBreak : Unseen isBreak := by
  intro c hlow _
  rw [isBreak, Bool.or_eq_false_iff, decide_eq_false_iff_not, decide_eq_false_iff_not]
  constructor <;> rintro rfl <;> exact absurd hlow (by decide)

theorem filter_flatMap_eq {p q : Char → Bool} {f : Char → List Char}
    (h : ∀ c, (f c).filter p = [c].filter q) (s : List Char) :
    (s.flatMap f).filter p = s.filter q := by
  induction s with
  | nil => rfl
  | cons c s ih =>
    rw [List.flatMap_cons, List.filter_append, h, ih, ← List.filter_append]
    rfl

theorem filter_intercalate {p : Char → Bool} {sep : List Char} (hsep : sep.filter p = [])
    (texts : List (List Char)) :
    (sep.intercalate texts).filter p = texts.flatMap (·.filter p) := by
  induction texts with
  | nil => rfl
  | cons t texts ih =>
    cases texts with
    | nil =>
      rw [List.intercalate_singleton, List.flatMap_singleton]
    | cons u texts =>
      rw [List.intercalate_cons_cons, List.filter_append, List.filter_append, hsep,
        List.append_nil, ih]
      rfl

end Text

end FlowLines
