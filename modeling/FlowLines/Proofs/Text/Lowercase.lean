import FlowLines.Proofs.Text.Utf8
import FlowLines.Text.Lowercase
import Mathlib.Data.List.Forall2

/-! Lower case beside the case of ASCII letters alone.  Letters beyond ASCII stay beyond it, but for
the Kelvin sign, which becomes a `k`: where a text has none, both find it in the same texts. -/

namespace FlowLines.Text

/-- A text and its lower case, where any sigma may become `ς`: which one ends a word is left
open. -/
inductive Lowers : List Char → List Char → Prop
  | nil : Lowers [] []
  | cons (c : Char) {s t : List Char} : Lowers s t → Lowers (c :: s) (lowercaseChar c ++ t)
  | final {s t : List Char} : Lowers s t → Lowers ('Σ' :: s) ('ς' :: t)

theorem lowers_lowercaseFrom (before s : List Char) : Lowers s (lowercaseFrom before s) := by
  induction s generalizing before with
  | nil => exact .nil
  | cons c s ih =>
    rw [lowercaseFrom]
    split
    · next h =>
      obtain rfl : c = 'Σ' := by simp_all
      exact .final (ih _)
    · exact .cons c (ih _)

theorem lowers_lowercase (s : List Char) : Lowers s (lowercase s) := lowers_lowercaseFrom [] s

example : lowercase "ΣΟΦΟΣ, Σ".toList = "σοφος, σ".toList := by decide +kernel

def SameButCase (s t : List Char) : Prop :=
  List.Forall₂ (fun c d => c = d ∨ c = d.toUpper ∨ c = d.toLower) s t

def Unmistakable (c : Char) : Prop := c.toNat < 128 ∧ c ≠ 'k'

instance (c : Char) : Decidable (Unmistakable c) :=
  inferInstanceAs (Decidable (c.toNat < 128 ∧ c ≠ 'k'))

theorem forall_ascii {P : Char → Prop} [DecidablePred P]
    (h : (List.range 128).all fun n => P (Char.ofNat n)) {c : Char} (hc : c.toNat < 128) : P c := by
  have hn := List.all_eq_true.1 h c.toNat (List.mem_range.2 hc)
  rw [Char.ofNat_toNat] at hn
  exact of_decide_eq_true hn

theorem lowercaseChar_of_ascii {c : Char} (h : c.toNat < 128) : lowercaseChar c = [c.toLower] :=
  forall_ascii (P := fun c => lowercaseChar c = [c.toLower]) (by decide +kernel) h

/-- A run goes from ASCII to ASCII, or is the Kelvin sign, or goes to characters beyond ASCII. -/
theorem ends_of_mem_lowercaseRuns {r : LowercaseRun} (h : r ∈ lowercaseRuns) :
    r.last < 128 ∨ r.first = 0x212A ∧ r.last = 0x212A ∧ r.shift = -8383 ∨
      128 ≤ r.first + r.shift ∧
        (r.last + r.shift < 0xD800 ∨ 0xDFFF < r.first + r.shift ∧ r.last + r.shift < 0x110000) := by
  have hall : lowercaseRuns.all fun r =>
      r.last < 128 ∨ r.first = 0x212A ∧ r.last = 0x212A ∧ r.shift = -8383 ∨
        128 ≤ r.first + r.shift ∧ (r.last + r.shift < 0xD800 ∨
          0xDFFF < r.first + r.shift ∧ r.last + r.shift < 0x110000) := by decide +kernel
  exact of_decide_eq_true (List.all_eq_true.1 hall r h)

theorem exists_mem_lowercaseChar {c : Char} (h : 128 ≤ c.toNat) :
    ∃ d ∈ lowercaseChar c, ¬ Unmistakable d := by
  unfold lowercaseChar
  split
  · exact ⟨Char.ofNat 0x0307, by simp, by decide⟩
  split
  · next r hr =>
    refine ⟨_, List.mem_singleton_self _, ?_⟩
    have hcovers : r.first ≤ c.toNat ∧ c.toNat ≤ r.last := by
      have hcov := List.find?_some hr
      simp only [LowercaseRun.covers, Bool.and_eq_true, decide_eq_true_eq] at hcov
      exact hcov.1
    rcases ends_of_mem_lowercaseRuns (List.mem_of_find?_eq_some hr) with hlow | hkelvin | hhigh
    · omega
    · obtain ⟨hfirst, hlast, hshift⟩ := hkelvin
      have hc : c.toNat = 0x212A := by omega
      rw [hc, hshift]
      decide
    · rw [Unmistakable, Utf8.toNat_ofNat_of_scalar (by omega)]
      omega
  · exact ⟨c, List.mem_singleton_self c, fun hd => by have := hd.1; omega⟩

theorem lt_of_toLower {c : Char} (h : c.toLower.toNat < 128) : c.toNat < 128 := by
  by_contra hc
  have hbeyond : ¬ (c.val ≥ 'A'.val ∧ c.val ≤ 'Z'.val) := by
    rintro ⟨-, hle⟩
    exact hc (Nat.lt_of_le_of_lt (UInt32.le_iff_toNat_le.1 hle) (by decide))
  have hsame : c.toLower = c := dif_neg hbeyond
  rw [hsame] at h
  exact hc h

/-- Whatever becomes of a sigma, the lower case is such a text exactly if it is that after the case
of ASCII letters is taken away. -/
theorem Lowers.eq_iff {s t name : List Char} (h : Lowers s t)
    (plain : ∀ d ∈ name, Unmistakable d) : t = name ↔ s.map Char.toLower = name := by
  induction h generalizing name with
  | nil => rfl
  | cons c _ ih =>
    by_cases hc : c.toNat < 128
    · rw [lowercaseChar_of_ascii hc, List.singleton_append, List.map_cons]
      cases name with
      | nil => simp
      | cons d name =>
        rw [List.cons.injEq, List.cons.injEq, ih fun x hx => plain x (List.mem_cons_of_mem d hx)]
    · obtain ⟨d, hd, hbad⟩ := exists_mem_lowercaseChar (Nat.le_of_not_lt hc)
      constructor
      · rintro rfl
        exact absurd (plain d (List.mem_append_left _ hd)) hbad
      · rintro rfl
        have hlower := plain c.toLower (List.mem_cons_self ..)
        exact absurd (lt_of_toLower hlower.1) hc
  | final _ _ =>
    constructor
    · rintro rfl
      exact absurd (plain 'ς' List.mem_cons_self) (by decide)
    · rintro rfl
      exact absurd (plain 'Σ' List.mem_cons_self) (by decide)

theorem toLower_eq_iff {c d : Char} (ascii : d.toNat < 128) (lower : d.toLower = d) :
    c.toLower = d ↔ c = d ∨ c = d.toUpper ∨ c = d.toLower := by
  constructor
  · rintro rfl
    exact forall_ascii
      (P := fun c => c = c.toLower ∨ c = c.toLower.toUpper ∨ c = c.toLower.toLower)
      (by decide +kernel) (lt_of_toLower ascii)
  · rintro (rfl | rfl | rfl)
    · exact lower
    · have hupper : d.toUpper.toLower = d.toLower :=
        forall_ascii (P := fun d => d.toUpper.toLower = d.toLower) (by decide +kernel) ascii
      exact hupper.trans lower
    · rw [lower, lower]

theorem sameButCase_iff {s name : List Char}
    (lower : ∀ d ∈ name, d.toNat < 128 ∧ d.toLower = d) :
    SameButCase s name ↔ s.map Char.toLower = name := by
  induction name generalizing s with
  | nil => simp [SameButCase]
  | cons d name ih =>
    obtain ⟨ascii, hd⟩ := lower d List.mem_cons_self
    have hrest := fun s => @ih s fun x hx => lower x (List.mem_cons_of_mem d hx)
    cases s with
    | nil => simp [SameButCase]
    | cons c s =>
      rw [List.map_cons, List.cons.injEq, toLower_eq_iff ascii hd, ← hrest]
      exact List.forall₂_cons

end FlowLines.Text
