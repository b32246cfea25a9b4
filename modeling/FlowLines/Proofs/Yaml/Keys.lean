import FlowLines.Yaml.Node

/-! In a document that is read no two members of a mapping have the same key, at whatever depth the
mapping stands. -/

namespace FlowLines.Yaml.Node

/-- The mappings in a node have every key once. -/
inductive Keyed : Node → Prop
  | scalar (value : Scalar) : Keyed (.scalar value)
  | sequence {items : List Node} : (∀ n ∈ items, Keyed n) → Keyed (.sequence items)
  | mapping {ms : List (Node × Node)} : (∀ m ∈ ms, Keyed m.1) → (∀ m ∈ ms, Keyed m.2) →
      ms.Pairwise (fun a b => a.1.same b.1 = false) → Keyed (.mapping ms)
  | tagged {tag : List Char} {n : Node} : Keyed n → Keyed (.tagged tag n)

theorem Keyed.untag {n : Node} (h : n.Keyed) : n.untag.Keyed := by
  induction h with
  | scalar value => exact .scalar value
  | sequence h => exact .sequence h
  | mapping hk hv hd => exact .mapping hk hv hd
  | tagged _ ih => exact ih

theorem Keyed.withTag {n : Node} (h : n.Keyed) (tag : Tag) : (n.withTag tag).Keyed := by
  cases tag with
  | named name => exact .tagged h
  | _ => exact h

theorem Keyed.concat {ms : List (Node × Node)} {k v : Node} (h : (Node.mapping ms).Keyed)
    (hk : k.Keyed) (hv : v.Keyed) (fresh : ∀ m ∈ ms, m.1.same k = false) :
    (Node.mapping (ms ++ [(k, v)])).Keyed := by
  cases h with
  | mapping hkeys hvalues hdistinct =>
    refine .mapping ?_ ?_ (List.pairwise_append.2 ⟨hdistinct, List.pairwise_singleton _ _, ?_⟩)
    · rw [List.forall_mem_append, List.forall_mem_singleton]
      exact ⟨hkeys, hk⟩
    · rw [List.forall_mem_append, List.forall_mem_singleton]
      exact ⟨hvalues, hv⟩
    · intro m hm other hother
      rw [List.mem_singleton.1 hother]
      exact fresh m hm

def Keys (build : Tree Nat → Budget → Built) : Prop :=
  ∀ t left n left', build t left = some (n, left') → n.Keyed

section

variable {build : Tree Nat → Budget → Built}

theorem Keys.items (h : Keys build) {ts : List (Tree Nat)} {left left' : Budget} {ns : List Node}
    (hbuild : buildItems build ts left = some (ns, left')) : ∀ n ∈ ns, n.Keyed := by
  induction ts generalizing left ns with
  | nil =>
    cases hbuild
    exact fun _ hn => (nomatch hn)
  | cons t ts ih =>
    obtain ⟨⟨n, left₁⟩, hn, hbuild⟩ := Option.bind_eq_some_iff.1 hbuild
    obtain ⟨⟨rest, left₂⟩, hrest, hbuild⟩ := Option.bind_eq_some_iff.1 hbuild
    cases hbuild
    exact List.forall_mem_cons.2 ⟨h t left n left₁ hn, ih hrest⟩

theorem Keys.members (h : Keys build) {ts : List (Tree Nat × Tree Nat)}
    {done ms : List (Node × Node)} {left left' : Budget}
    (hdone : (Node.mapping done.reverse).Keyed)
    (hbuild : buildMembers build done ts left = some (ms, left')) : (Node.mapping ms).Keyed := by
  induction ts generalizing done left with
  | nil =>
    cases hbuild
    exact hdone
  | cons t ts ih =>
    obtain ⟨⟨k, left₁⟩, hk, hbuild⟩ := Option.bind_eq_some_iff.1 hbuild
    dsimp only at hbuild
    split at hbuild
    · cases hbuild
    · next hfresh =>
      obtain ⟨⟨v, left₂⟩, hv, hbuild⟩ := Option.bind_eq_some_iff.1 hbuild
      rw [Bool.not_eq_true, List.any_eq_false] at hfresh
      refine ih ?_ hbuild
      rw [List.reverse_cons]
      refine hdone.concat (h _ _ _ _ hk) (h _ _ _ _ hv) fun m hm => ?_
      exact Bool.eq_false_iff.2 (hfresh m (List.mem_reverse.1 hm))

theorem Keys.follow (h : Keys build) (anchors : Anchors) : Keys (follow build anchors) := by
  intro t left n left' hbuild
  unfold Node.follow at hbuild
  split at hbuild
  · split at hbuild
    · cases hbuild
    · obtain ⟨t, -, hbuild⟩ := Option.bind_eq_some_iff.1 hbuild
      exact h _ _ _ _ hbuild
  · exact h _ _ _ _ hbuild

end

theorem keys_buildHere (anchors : Anchors) (depth : Nat) : Keys (buildHere anchors depth) := by
  have hscalar (depth : Nat) {p : Properties} {plain : Bool} {text : List Char} {n : Node}
      {left left' : Budget}
      (hbuild : buildHere anchors depth (.scalar p plain text) left = some (n, left')) :
      n.Keyed := by
    unfold buildHere at hbuild
    obtain ⟨value, -, hbuild⟩ := Option.bind_eq_some_iff.1 hbuild
    cases hbuild
    exact (Keyed.scalar value).withTag _
  induction depth with
  | zero =>
    intro t left n left' hbuild
    cases t with
    | scalar p plain text => exact hscalar 0 hbuild
    | _ => cases hbuild
  | succ depth ih =>
    intro t left n left' hbuild
    cases t with
    | scalar p plain text => exact hscalar (depth + 1) hbuild
    | sequence p items =>
      obtain ⟨⟨ns, left₁⟩, hns, hbuild⟩ := Option.bind_eq_some_iff.1 hbuild
      cases hbuild
      exact (Keyed.sequence ((ih.follow anchors).items hns)).withTag _
    | mapping p members =>
      obtain ⟨⟨ms, left₁⟩, hms, hbuild⟩ := Option.bind_eq_some_iff.1 hbuild
      cases hbuild
      have hnil : (Node.mapping ([] : List (Node × Node)).reverse).Keyed :=
        .mapping (fun _ hm => (nomatch hm)) (fun _ hm => (nomatch hm)) .nil
      exact ((ih.follow anchors).members hnil hms).withTag _
    | _ => cases hbuild

theorem keyed_of_ofText? {text : List Char} {n : Node} (h : ofText? text = some n) : n.Keyed := by
  obtain ⟨tokens, -, h⟩ := Option.bind_eq_some_iff.1 h
  obtain ⟨t, -, h⟩ := Option.bind_eq_some_iff.1 h
  cases t with
  | none =>
    cases h
    exact .scalar .null
  | some t =>
    obtain ⟨⟨linked, anchors⟩, -, h⟩ := Option.bind_eq_some_iff.1 h
    obtain ⟨⟨n, left⟩, hbuild, h⟩ := Option.bind_eq_some_iff.1 h
    cases h
    exact keys_buildHere anchors maxDepth _ _ _ _ hbuild

end FlowLines.Yaml.Node
