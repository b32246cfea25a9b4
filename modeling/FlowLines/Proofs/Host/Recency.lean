import FlowLines.Host.NameCache

/-! The cache of names without its stamps: a list of names, the latest used first.  Whatever order
the stamped names are held in, the cache does what the list does. -/

namespace FlowLines.Host

abbrev Recency := List (Address × String)

namespace Recency

def without (m : Recency) (a : Address) : Recency := m.filter (·.1 ≠ a)

/-- A name that is found goes to the front. -/
def get? (m : Recency) (a : Address) : Option String × Recency :=
  match m.find? (·.1 = a) with
  | some p => (some p.2, p :: m.without a)
  | none => (none, m)

/-- A new name goes to the front, and if there is no room for it the last one is dropped. -/
def insert (m : Recency) (a : Address) (name : String) : Recency :=
  if m.any (·.1 = a) then (a, name) :: m.without a
  else if NameCache.capacity ≤ m.length then (a, name) :: m.dropLast
  else (a, name) :: m

end Recency

namespace NameCache

/-- Names from the latest used to the one that was not used for longest. -/
structure Sorted (uses : Nat) (names : List CachedName) : Prop where
  later : names.Pairwise fun x y => y.lastUsed < x.lastUsed
  stamped : ∀ n ∈ names, n.lastUsed ≤ uses
  distinct : names.Pairwise fun x y => x.address ≠ y.address
  fits : names.length ≤ capacity

def pair (n : CachedName) : Address × String := (n.address, n.name)

/-- The names of the cache, sorted, are the names of the list. -/
def Refines (c : NameCache) (m : Recency) : Prop :=
  ∃ sorted, sorted.Perm c.names ∧ Sorted c.uses sorted ∧ m = sorted.map pair

theorem refines_empty : Refines {} [] := ⟨[], .refl _, ⟨.nil, by simp, .nil, by simp⟩, rfl⟩

theorem Refines.reorder {c : NameCache} {m : Recency} (h : c.Refines m) {names : List CachedName}
    (p : names.Perm c.names) : Refines { c with names } m := by
  obtain ⟨sorted, perm, hs, rfl⟩ := h
  exact ⟨sorted, perm.trans p.symm, hs, rfl⟩

theorem find?_perm {xs ys : List CachedName} (p : xs.Perm ys)
    (distinct : xs.Pairwise fun x y => x.address ≠ y.address) (a : Address) :
    xs.find? (·.address = a) = ys.find? (·.address = a) := by
  induction p with
  | nil => rfl
  | cons x _ ih =>
    rw [List.pairwise_cons] at distinct
    simp only [List.find?_cons, ih distinct.2]
  | swap x y l =>
    have hxy : y.address ≠ x.address := (List.pairwise_cons.1 distinct).1 x (by simp)
    by_cases hx : x.address = a <;> by_cases hy : y.address = a <;> simp_all
  | trans p q ihp ihq =>
    rw [ihp distinct, ihq ((p.pairwise_iff fun h => h.symm).1 distinct)]

theorem drop_eq_self {names : List CachedName} {a : Address} (h : ∀ n ∈ names, n.address ≠ a) :
    drop names a = names := by
  rw [drop, List.filter_eq_self]
  simpa using h

theorem map_stamp_eq_self {names : List CachedName} {a : Address} {uses : Nat}
    (h : ∀ n ∈ names, n.address ≠ a) :
    names.map (fun n => if n.address = a then { n with lastUsed := uses } else n) = names := by
  induction names with
  | nil => rfl
  | cons n names ih =>
    rw [List.map_cons, if_neg (h n (by simp)), ih fun x hx => h x (by simp [hx])]

theorem without_pair (names : List CachedName) (a : Address) :
    Recency.without (names.map pair) a = (drop names a).map pair := by
  rw [Recency.without, List.filter_map]
  rfl

theorem find?_pair (names : List CachedName) (a : Address) :
    (names.map pair).find? (·.1 = a) = (names.find? (·.address = a)).map pair := by
  rw [List.find?_map]
  rfl

theorem any_pair (names : List CachedName) (a : Address) :
    (names.map pair).any (·.1 = a) = names.any (·.address = a) := by
  rw [List.any_map]
  rfl

theorem Sorted.cons {uses : Nat} {names rest : List CachedName} (h : Sorted uses names)
    (sub : rest.Sublist names) {n : CachedName} {uses' : Nat} (last : n.lastUsed = uses')
    (lt : uses < uses') (new : ∀ x ∈ rest, x.address ≠ n.address) (fits : rest.length < capacity) :
    Sorted uses' (n :: rest) where
  later := by
    refine List.pairwise_cons.2 ⟨fun x hx => ?_, h.later.sublist sub⟩
    have := h.stamped x (sub.subset hx)
    omega
  stamped := by
    intro x hx
    rcases List.mem_cons.1 hx with rfl | hx
    · exact Nat.le_of_eq last
    · have := h.stamped x (sub.subset hx)
      omega
  distinct := List.pairwise_cons.2 ⟨fun x hx => (new x hx).symm, h.distinct.sublist sub⟩
  fits := fits

theorem Sorted.mono {uses uses' : Nat} {names : List CachedName} (h : Sorted uses names)
    (le : uses ≤ uses') : Sorted uses' names :=
  ⟨h.later, fun n hn => Nat.le_trans (h.stamped n hn) le, h.distinct, h.fits⟩

theorem Sorted.split {uses : Nat} {front back : List CachedName} {n : CachedName}
    (h : Sorted uses (front ++ n :: back)) :
    (∀ x ∈ front ++ back, x.address ≠ n.address) ∧ drop (front ++ n :: back) n.address =
      front ++ back := by
  have others : ∀ x ∈ front ++ back, x.address ≠ n.address := by
    have distinct := List.pairwise_append.1 h.distinct
    intro x hx
    rcases List.mem_append.1 hx with hx | hx
    · exact distinct.2.2 x hx n (by simp)
    · exact ((List.pairwise_cons.1 distinct.2.1).1 x hx).symm
  refine ⟨others, ?_⟩
  have split : drop (front ++ n :: back) n.address = drop (front ++ back) n.address := by
    simp [drop]
  rw [split, drop_eq_self others]

theorem Sorted.drop_last {uses : Nat} {front : List CachedName} {last : CachedName}
    (h : Sorted uses (front ++ [last])) : drop (front ++ [last]) last.address = front := by
  have split := (@Sorted.split uses front [] last h).2
  rwa [List.append_nil] at split

theorem Sorted.refines_cons {uses : Nat} {sorted kept kept' : List CachedName}
    (h : Sorted uses sorted) (sub : kept.Sublist sorted) (p : kept.Perm kept') (a : Address)
    (name : String) (fits : (drop kept a).length < capacity) :
    Refines ⟨⟨a, name, uses + 1⟩ :: drop kept' a, uses + 1⟩
      ((a, name) :: (drop kept a).map pair) := by
  have new : ∀ x ∈ drop kept a, x.address ≠ a := by
    intro x hx
    simpa using (List.mem_filter.1 hx).2
  refine ⟨⟨a, name, uses + 1⟩ :: drop kept a, (p.filter _).cons _, ?_, rfl⟩
  exact h.cons (List.filter_sublist.trans sub) rfl (Nat.lt_succ_self _) new fits

variable {c : NameCache} {m : Recency}

theorem Refines.get? (h : c.Refines m) (a : Address) :
    (c.get? a).1 = (m.get? a).1 ∧ (c.get? a).2.Refines (m.get? a).2 := by
  obtain ⟨sorted, perm, hs, rfl⟩ := h
  simp only [NameCache.get?, Recency.get?, find?_pair, ← find?_perm perm hs.distinct]
  cases found : sorted.find? (·.address = a) with
  | none =>
    have absent : ∀ n ∈ c.names, n.address ≠ a := by
      intro n hn
      simpa using List.find?_eq_none.1 found n (perm.mem_iff.2 hn)
    refine ⟨rfl, sorted, ?_, hs.mono (Nat.le_succ _), rfl⟩
    rwa [map_stamp_eq_self absent]
  | some n =>
    obtain ⟨ha, front, back, rfl, -⟩ := List.find?_eq_some_iff_append.1 found
    obtain rfl : n.address = a := by simpa using ha
    obtain ⟨others, dropped⟩ := hs.split
    refine ⟨rfl, { n with lastUsed := c.uses + 1 } :: (front ++ back), ?_, ?_, ?_⟩
    · refine .trans ?_ (perm.map _)
      rw [List.map_append, List.map_cons, if_pos rfl,
        map_stamp_eq_self fun x hx => others x (List.mem_append_left _ hx),
        map_stamp_eq_self fun x hx => others x (List.mem_append_right _ hx)]
      exact List.perm_middle.symm
    · refine hs.cons ?_ rfl (Nat.lt_succ_self _) others ?_
      · exact (List.sublist_cons_self n back).append_left front
      · have := hs.fits
        simp only [List.length_append, List.length_cons] at this ⊢
        omega
    · rw [List.map_cons, without_pair, dropped]
      rfl

theorem oldest?_cons_cons (b x : CachedName) (names : List CachedName) :
    oldest? (b :: x :: names) = oldest? ((if x.lastUsed < b.lastUsed then x else b) :: names) := by
  simp only [oldest?, List.foldl_cons]
  split <;> rfl

theorem oldest?_cons (b : CachedName) (names : List CachedName) :
    ∃ n ∈ b :: names, oldest? (b :: names) = some n ∧
      ∀ x ∈ b :: names, n.lastUsed ≤ x.lastUsed := by
  induction names generalizing b with
  | nil => exact ⟨b, by simp, rfl, by simp⟩
  | cons x names ih =>
    obtain ⟨n, hn, he, hle⟩ := ih (if x.lastUsed < b.lastUsed then x else b)
    refine ⟨n, ?_, by rw [oldest?_cons_cons, he], ?_⟩
    · split at hn <;> simp only [List.mem_cons] at hn ⊢ <;> grind
    · have first := hle _ List.mem_cons_self
      have rest : ∀ y ∈ names, n.lastUsed ≤ y.lastUsed := fun y hy => hle y (by simp [hy])
      intro y hy
      rcases List.mem_cons.1 hy with rfl | hy
      · split at first <;> omega
      rcases List.mem_cons.1 hy with rfl | hy
      · split at first <;> omega
      · exact rest y hy

/-- Sorted by use, the oldest name is the last one. -/
theorem oldest?_eq_last {uses : Nat} {names front : List CachedName} {last : CachedName}
    (perm : (front ++ [last]).Perm names) (hs : Sorted uses (front ++ [last])) :
    oldest? names = some last := by
  cases names with
  | nil => simpa using perm.length_eq
  | cons b names =>
    obtain ⟨n, hn, he, hle⟩ := oldest?_cons b names
    rw [he]
    have below := hle last (perm.subset (by simp))
    rcases List.mem_append.1 (perm.symm.subset hn) with hn | hn
    · have above := (List.pairwise_append.1 hs.later).2.2 n hn last (by simp)
      omega
    · rw [List.mem_singleton.1 hn]

theorem Refines.insert (h : c.Refines m) (a : Address) (name : String) :
    (c.insert a name).Refines (m.insert a name) := by
  obtain ⟨sorted, perm, hs, rfl⟩ := h
  have room := hs.fits
  have holds : c.holds a = sorted.any (·.address = a) := by
    rw [NameCache.holds, perm.any_eq]
  unfold NameCache.insert Recency.insert
  simp only [any_pair, holds, List.length_map, ← perm.length_eq]
  cases held : sorted.any (·.address = a) with
  | true =>
    obtain ⟨n, hn, rfl⟩ : ∃ n ∈ sorted, n.address = a := by simpa using held
    obtain ⟨front, back, rfl⟩ := List.append_of_mem hn
    simp only [Bool.not_true, Bool.and_false, Bool.false_eq_true, if_false, if_true, without_pair]
    apply hs.refines_cons (.refl _) perm
    rw [hs.split.2]
    simp only [List.length_append, List.length_cons] at room ⊢
    omega
  | false =>
    have absent : ∀ n ∈ sorted, n.address ≠ a := by simpa using held
    by_cases full : capacity ≤ sorted.length
    · obtain rfl | ⟨front, last, rfl⟩ := List.eq_nil_or_concat sorted
      · contradiction
      rw [List.concat_eq_append] at *
      have gone : drop front a = front :=
        drop_eq_self fun x hx => absent x (List.mem_append_left _ hx)
      have kept : front.Perm (drop c.names last.address) := by
        have filtered := perm.filter (fun n : CachedName => n.address ≠ last.address)
        rwa [← drop, hs.drop_last] at filtered
      rw [List.length_append, List.length_singleton] at room
      have put := hs.refines_cons (List.sublist_append_left front [last]) kept a name
        (by rw [gone]; omega)
      simp only [full, decide_true, Bool.not_false, Bool.and_self, if_true, Bool.false_eq_true,
        if_false, oldest?_eq_last perm hs, ← List.map_dropLast, List.dropLast_concat]
      rwa [gone] at put
    · have put := hs.refines_cons (.refl _) perm a name (by rw [drop_eq_self absent]; omega)
      simp only [full, decide_false, Bool.false_and, Bool.false_eq_true, if_false]
      rwa [drop_eq_self absent] at put

end NameCache

end FlowLines.Host
