import FlowLines.Proofs.Host.Recency

/-! Look-ups and insertions in any sequence, those that no resolver makes among them.  Ranked by
their stamps, the names of the cache are the list that is kept by recency. -/

namespace FlowLines.Host

inductive Use
  | get (a : Address)
  | insert (a : Address) (name : String)

structure Memory (μ : Type) where
  get? : μ → Address → Option String × μ
  insert : μ → Address → String → μ

structure Session (μ : Type) where
  answers : List (Option String) := []
  memory : μ

namespace Memory

variable {μ : Type} (m : Memory μ)

def use (s : Session μ) : Use → Session μ
  | .get a =>
    let (name, memory) := m.get? s.memory a
    ⟨s.answers ++ [name], memory⟩
  | .insert a name => ⟨s.answers, m.insert s.memory a name⟩

def run (start : μ) (uses : List Use) : Session μ := uses.foldl m.use { memory := start }

end Memory

def Recency.memory : Memory Recency := ⟨Recency.get?, Recency.insert⟩

namespace NameCache

/-- The cache.  Its names may be held in any order before a use; `order` tells in which. -/
def memory (order : Nat → List CachedName → List CachedName) : Memory NameCache where
  get? c a := { c with names := order c.uses c.names }.get? a
  insert c a name := { c with names := order c.uses c.names }.insert a name

def ranked (c : NameCache) : List CachedName :=
  c.names.mergeSort fun x y => y.lastUsed ≤ x.lastUsed

/-- The names are those of the list, in its order, and nothing is left open by their stamps. -/
structure Ranks (c : NameCache) (m : Recency) : Prop where
  pairs : c.ranked.map pair = m
  nodup : (m.map (·.1)).Nodup
  fits : c.names.length ≤ capacity
  distinct : c.names.Pairwise fun x y => x.lastUsed ≠ y.lastUsed
  stamped : ∀ n ∈ c.names, n.lastUsed ≤ c.uses
  oldest : ∀ names, names.Perm c.names → oldest? names = c.ranked.getLast?

theorem Sorted.apart {uses : Nat} {sorted names : List CachedName} (hs : Sorted uses sorted)
    (perm : sorted.Perm names) : names.Pairwise fun x y => x.lastUsed ≠ y.lastUsed :=
  (perm.pairwise_iff fun h => h.symm).1 (hs.later.imp Nat.ne_of_gt)

theorem Sorted.ranked_eq {c : NameCache} {sorted : List CachedName} (hs : Sorted c.uses sorted)
    (perm : sorted.Perm c.names) : c.ranked = sorted := by
  have same : c.ranked.Perm sorted := (List.mergeSort_perm c.names _).trans perm.symm
  have descends : c.ranked.Pairwise fun x y => decide (y.lastUsed ≤ x.lastUsed) :=
    List.pairwise_mergeSort (by simp only [decide_eq_true_eq]; omega)
      (by simp only [Bool.or_eq_true, decide_eq_true_eq]; omega) _
  -- no two stamps are equal, so the ranks leave no choice
  have strictly : c.ranked.Pairwise fun x y => y.lastUsed < x.lastUsed := by
    refine (descends.and (hs.apart same.symm)).imp fun ⟨le, ne⟩ => ?_
    have := of_decide_eq_true le
    omega
  exact same.eq_of_pairwise (fun x y _ _ hxy hyx => absurd hxy (Nat.lt_asymm hyx)) strictly hs.later

theorem Refines.ranks {c : NameCache} {m : Recency} (h : c.Refines m) : c.Ranks m := by
  obtain ⟨sorted, perm, hs, rfl⟩ := h
  have ranked := hs.ranked_eq perm
  constructor
  case pairs => rw [ranked]
  case nodup =>
    rw [List.map_map]
    exact List.pairwise_map.2 hs.distinct
  case fits =>
    rw [← perm.length_eq]
    exact hs.fits
  case distinct => exact hs.apart perm
  case stamped => exact fun n hn => hs.stamped n (perm.mem_iff.2 hn)
  case oldest =>
    intro names p
    rw [ranked]
    obtain rfl | ⟨front, last, rfl⟩ := List.eq_nil_or_concat sorted
    · rw [(p.trans perm.symm).eq_nil]
      rfl
    · rw [List.concat_eq_append] at *
      rw [oldest?_eq_last (perm.trans p.symm) hs, List.getLast?_concat]

structure Follows (s : Session NameCache) (t : Session Recency) : Prop where
  answers : s.answers = t.answers
  refines : s.memory.Refines t.memory

section

variable {order : Nat → List CachedName → List CachedName}
  (permutes : ∀ i names, (order i names).Perm names)

include permutes

theorem Follows.use {s : Session NameCache} {t : Session Recency} (h : Follows s t) (u : Use) :
    Follows ((memory order).use s u) (Recency.memory.use t u) := by
  have reordered := h.refines.reorder (permutes s.memory.uses s.memory.names)
  cases u with
  | get a =>
    obtain ⟨name, refines⟩ := reordered.get? a
    refine ⟨?_, refines⟩
    simp only [Memory.use, h.answers]
    exact congrArg (t.answers ++ [·]) name
  | insert a name => exact ⟨h.answers, reordered.insert a name⟩

theorem follows_run (uses : List Use) :
    Follows ((memory order).run {} uses) (Recency.memory.run [] uses) := by
  unfold Memory.run
  have start : Follows { memory := {} } { memory := [] } := ⟨rfl, refines_empty⟩
  generalize ({ memory := {} } : Session NameCache) = s at start ⊢
  generalize ({ memory := [] } : Session Recency) = t at start ⊢
  induction uses generalizing s t with
  | nil => exact start
  | cons u uses ih => exact ih _ _ (start.use permutes u)

end

theorem uses_use (order : Nat → List CachedName → List CachedName) (s : Session NameCache)
    (u : Use) : ((memory order).use s u).memory.uses = s.memory.uses + 1 := by
  cases u <;> rfl

theorem uses_run (order : Nat → List CachedName → List CachedName) (uses : List Use) :
    ((memory order).run {} uses).memory.uses = uses.length := by
  have fold (s : Session NameCache) : (uses.foldl (memory order).use s).memory.uses =
      s.memory.uses + uses.length := by
    induction uses generalizing s with
    | nil => rfl
    | cons u uses ih =>
      rw [List.foldl_cons, ih, uses_use, List.length_cons]
      omega
  simpa [Memory.run] using fold { memory := {} }

/-- Whatever look-ups and insertions follow each other, and whatever order names are held in, the
answers are those of the list, and the names by their stamps are the list.  Each use counts once,
so that no stamp goes beyond the number of uses. -/
theorem run_ranks (order : Nat → List CachedName → List CachedName)
    (permutes : ∀ i names, (order i names).Perm names) (uses : List Use) :
    let s := (memory order).run {} uses
    let t := Recency.memory.run [] uses
    s.answers = t.answers ∧ s.memory.Ranks t.memory ∧ s.memory.uses = uses.length := by
  intro s t
  have follows := follows_run permutes uses
  exact ⟨follows.answers, follows.refines.ranks, uses_run order uses⟩

theorem run_ranks_given_anew :
    let order (_ : Nat) (names : List CachedName) : List CachedName := names.reverse
    let a : Address := .v4 #v[10, 0, 0, 1]
    let b : Address := .v4 #v[10, 0, 0, 2]
    let s := (memory order).run {}
      [.insert a "x", .insert b "y", .get a, .get b, .insert a "z", .get (.v4 #v[10, 0, 0, 3])]
    (∀ i names, (order i names).Perm names) ∧ s.answers = [some "x", some "y", none] ∧
      s.memory.ranked.map pair = [(a, "z"), (b, "y")] ∧ s.memory.uses = 6 := by
  intro order a b s
  have permutes : ∀ i names, (order i names).Perm names := fun _ names => names.reverse_perm
  obtain ⟨answers, ranks, uses⟩ := run_ranks order permutes _
  exact ⟨permutes, answers.trans (by decide), ranks.pairs.trans (by decide), uses⟩

end NameCache

end FlowLines.Host
