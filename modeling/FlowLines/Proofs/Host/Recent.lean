import FlowLines.Proofs.Host.Recency
import Mathlib.Data.List.Dedup

/-! Which addresses a bounded list of names still knows: the last ones that differ. -/

namespace FlowLines.Host

/-- The addresses of a history, the latest first, each at its latest use. -/
def recent : List Address → List Address
  | [] => []
  | a :: h => a :: (recent h).filter (· ≠ a)

theorem mem_recent {x : Address} {h : List Address} : x ∈ recent h ↔ x ∈ h := by
  induction h with
  | nil => rfl
  | cons a h ih =>
    simp only [recent, List.mem_cons, List.mem_filter, ih, decide_eq_true_eq]
    by_cases hx : x = a <;> simp [hx]

theorem nodup_recent (h : List Address) : (recent h).Nodup := by
  induction h with
  | nil => exact .nil
  | cons a h ih => exact List.nodup_cons.2 ⟨by simp, ih.filter _⟩

theorem length_recent (h : List Address) : (recent h).length = h.dedup.length :=
  ((List.perm_ext_iff_of_nodup (nodup_recent h) h.nodup_dedup).2 fun x => by
    rw [mem_recent, List.mem_dedup]).length_eq

theorem recent_append {a : Address} {since : List Address} (new : a ∉ since)
    (before : List Address) :
    ∃ rest, recent (since ++ a :: before) = recent since ++ a :: rest := by
  induction since with
  | nil => exact ⟨_, rfl⟩
  | cons x since ih =>
    rw [List.mem_cons, not_or] at new
    obtain ⟨rest, hr⟩ := ih new.2
    refine ⟨rest.filter (· ≠ x), ?_⟩
    rw [List.cons_append, recent, hr, List.filter_append,
      List.filter_cons_of_pos (by simpa using new.1)]
    rfl

theorem mem_take_recent_iff {a : Address} {since : List Address} (new : a ∉ since)
    (before : List Address) (n : Nat) :
    a ∈ (recent (since ++ a :: before)).take n ↔ since.dedup.length < n := by
  obtain ⟨rest, hr⟩ := recent_append new before
  have nodup := hr ▸ nodup_recent (since ++ a :: before)
  have front : a ∉ recent since := by rwa [mem_recent]
  rw [hr, ← length_recent]
  constructor
  · intro h
    by_contra long
    rw [List.take_append_of_le_length (Nat.le_of_not_lt long)] at h
    exact front (List.mem_of_mem_take h)
  · intro short
    have room : n - (recent since).length = (n - (recent since).length - 1) + 1 := by omega
    rw [List.take_append, room]
    simp

theorem take_filter_of_notMem {a : Address} {l : List Address} {n : Nat} (h : a ∉ l.take n) :
    (l.filter (· ≠ a)).take n = l.take n := by
  induction l generalizing n with
  | nil => rfl
  | cons x l ih =>
    cases n with
    | zero => rfl
    | succ n =>
      rw [List.take_succ_cons, List.mem_cons, not_or] at h
      rw [List.filter_cons_of_pos (by simpa using Ne.symm h.1), List.take_succ_cons, ih h.2]
      rfl

/-- One address less in front leaves room for one more from behind. -/
theorem filter_take_of_mem {a : Address} {l : List Address} {n : Nat} (nodup : l.Nodup)
    (h : a ∈ l.take (n + 1)) :
    (l.take (n + 1)).filter (· ≠ a) = (l.filter (· ≠ a)).take n := by
  induction l generalizing n with
  | nil => simp at h
  | cons x l ih =>
    rw [List.nodup_cons] at nodup
    rw [List.take_succ_cons] at h ⊢
    by_cases hx : x = a
    · subst hx
      have gone : ∀ k, (l.take k).filter (· ≠ x) = l.take k := by
        intro k
        rw [List.filter_eq_self]
        intro y hy
        have := List.mem_of_mem_take hy
        grind
      have all := gone l.length
      rw [List.take_length] at all
      simp only [ne_eq, not_true_eq_false, decide_false, Bool.false_eq_true, not_false_eq_true,
        List.filter_cons_of_neg] at all gone ⊢
      rw [gone, all]
    · have h := (List.mem_cons.1 h).resolve_left (Ne.symm hx)
      cases n with
      | zero => simp at h
      | succ n =>
        rw [List.filter_cons_of_pos (by simpa using hx),
          List.filter_cons_of_pos (by simpa using hx), List.take_succ_cons, ih nodup.2 h]

namespace Recency

variable {m : Recency} {a : Address}

theorem get?_of_mem (h : a ∈ m.map (·.1)) :
    ∃ name, (a, name) ∈ m ∧ m.get? a = (some name, (a, name) :: m.without a) := by
  obtain ⟨p, hp, rfl⟩ := List.mem_map.1 h
  unfold get?
  cases found : m.find? (·.1 = p.1) with
  | none => simpa using List.find?_eq_none.1 found p hp
  | some q =>
    have same : q.1 = p.1 := by simpa using List.find?_some found
    exact ⟨q.2, same ▸ List.mem_of_find?_eq_some found, by rw [← same]⟩

theorem get?_of_notMem (h : a ∉ m.map (·.1)) : m.get? a = (none, m) := by
  have absent : m.find? (·.1 = a) = none := by
    rw [List.find?_eq_none]
    intro p hp same
    exact h (List.mem_map.2 ⟨p, hp, by simpa using same⟩)
  simp [get?, absent]

theorem map_without (m : Recency) (a : Address) :
    (m.without a).map (·.1) = (m.map (·.1)).filter (· ≠ a) := by
  rw [without, List.filter_map]
  rfl

theorem insert_of_notMem (h : a ∉ m.map (·.1)) (name : String) :
    m.insert a name =
      (a, name) :: if NameCache.capacity ≤ m.length then m.dropLast else m := by
  have absent : m.any (·.1 = a) = false := by
    rw [List.any_eq_false]
    intro p hp same
    exact h (List.mem_map.2 ⟨p, hp, by simpa using same⟩)
  rw [insert, absent, if_neg Bool.false_ne_true]
  split <;> rfl

/-- The addresses that are known are the last ones that differ, as many as there is room for. -/
def Knows (m : Recency) (used : List Address) : Prop :=
  m.map (·.1) = (recent used).take NameCache.capacity

theorem Knows.hit {used : List Address} (h : m.Knows used) (known : a ∈ m.map (·.1))
    (name : String) : Knows ((a, name) :: m.without a) (a :: used) := by
  unfold Knows at h ⊢
  rw [h] at known
  rw [List.map_cons, map_without, h, recent]
  exact congrArg (a :: ·) (filter_take_of_mem (nodup_recent used) known)

theorem Knows.miss {used : List Address} (h : m.Knows used) (new : a ∉ m.map (·.1))
    (name : String) : Knows (m.insert a name) (a :: used) := by
  have room : NameCache.capacity = 999 + 1 := rfl
  rw [insert_of_notMem new]
  unfold Knows at h ⊢
  have size : m.length = ((recent used).take NameCache.capacity).length := by
    rw [← h, List.length_map]
  rw [h] at new
  rw [List.map_cons, recent, room, List.take_succ_cons]
  rw [room] at h new size
  congr 1
  rw [List.length_take] at size
  have new' : a ∉ (recent used).take 999 := fun ha =>
    new (List.take_subset_take_left _ (by omega) ha)
  rw [take_filter_of_notMem new']
  split
  · rw [List.map_dropLast, h, List.dropLast_eq_take, List.take_take, List.length_take]
    congr 1
    omega
  · rw [h, List.take_of_length_le (by omega), List.take_of_length_le (by omega)]

end Recency

end FlowLines.Host
