import FlowLines.Proofs.Text.Control
import FlowLines.Proofs.Text.Utf8
import FlowLines.Proofs.Text.Visible

/-! Texts that stay on one line, also as bytes. -/

namespace FlowLines.Text

def OneLine (s : List Char) : Prop := ∀ c ∈ s, c ≠ '\n' ∧ c ≠ '\r'

instance (s : List Char) : Decidable (OneLine s) :=
  List.decidableBAll (fun c => c ≠ '\n' ∧ c ≠ '\r') s

@[simp] theorem oneLine_nil : OneLine [] := by simp [OneLine]

@[simp] theorem oneLine_cons {c : Char} {s : List Char} :
    OneLine (c :: s) ↔ (c ≠ '\n' ∧ c ≠ '\r') ∧ OneLine s := List.forall_mem_cons

@[simp] theorem oneLine_append {s t : List Char} : OneLine (s ++ t) ↔ OneLine s ∧ OneLine t :=
  List.forall_mem_append

theorem oneLine_iff {s : List Char} : OneLine s ↔ s.filter isBreak = [] := by
  simp [OneLine, isBreak]

theorem oneLine_decimal (n : Nat) : OneLine (decimal n) := by
  intro c hc
  have hd := isDigit_of_mem_decimal hc
  exact ⟨ne_of_isDigit hd rfl, ne_of_isDigit hd rfl⟩

theorem oneLine_of_clean {s : List Char} (h : s.any isControl = false) : OneLine s := by
  intro c hc
  have hcontrol : isControl c = false := by simpa using List.any_eq_false.1 h c hc
  constructor <;> rintro rfl <;> exact absurd hcontrol (by decide)

theorem oneLine_reveal (s : List Char) : OneLine (reveal s) :=
  oneLine_of_clean (any_isControl_reveal s)

namespace Utf8

/-- Bytes below 128 are characters of their own, and stand in no other. -/
theorem toNat_of_mem_encodeChar {c : Char} {b : UInt8} (h : b ∈ String.utf8EncodeChar c)
    (hb : b.toNat < 0x80) : c.toNat = b.toNat := by
  unfold String.utf8EncodeChar at h
  dsimp only at h
  rw [Char.toNat]
  generalize c.val.toNat = n at h ⊢
  repeat' split at h
  -- in the longer forms every byte has its highest bit set
  all_goals
    simp only [List.mem_cons, List.not_mem_nil, or_false, ← UInt8.toNat_inj,
      UInt8.toNat_ofNat'] at h
    omega

theorem notMem_encode {c : Char} {b : UInt8} (hc : c.toNat = b.toNat) (hb : b.toNat < 0x80)
    {s : List Char} (h : ∀ d ∈ s, d ≠ c) : b ∉ encode s := by
  intro hmem
  obtain ⟨d, hd, hmem⟩ := List.mem_flatMap.1 hmem
  apply h d hd
  rw [← Char.toNat_inj, hc]
  exact toNat_of_mem_encodeChar hmem hb

theorem count_encode {c : Char} {b : UInt8} (hc : c.toNat = b.toNat) (hb : b.toNat < 0x80)
    (s : List Char) : (encode s).count b = s.count c := by
  have hself : String.utf8EncodeChar c = [b] := by
    rw [← encodeChar_one (UInt8.lt_iff_toNat_lt.2 hb), ← hc, Char.ofNat_toNat]
  induction s with
  | nil => rfl
  | cons d s ih =>
    have hcons : encode (d :: s) = String.utf8EncodeChar d ++ encode s := List.flatMap_cons
    rw [hcons, List.count_append, ih, List.count_cons, Nat.add_comm]
    by_cases hd : d = c
    · subst hd
      simp [hself]
    · have hother : b ∉ String.utf8EncodeChar d := fun hmem =>
        hd (Char.toNat_inj.1 ((toNat_of_mem_encodeChar hmem hb).trans hc.symm))
      simp [List.count_eq_zero.2 hother, hd]

end Utf8

theorem OneLine.count_eq_zero {s : List Char} (h : OneLine s) : s.count '\n' = 0 :=
  List.count_eq_zero.2 fun hmem => (h '\n' hmem).1 rfl

end FlowLines.Text
