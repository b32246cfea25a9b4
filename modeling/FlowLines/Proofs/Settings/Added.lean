import FlowLines.Proofs.Settings.Memberwise

/-! A member more in a settings file that is read.  A text that names no setting is passed over, and
one that does, with a tag before it or without, gives that setting.  A key that is no text is
refused. -/

namespace FlowLines.Settings

open FlowLines.Yaml (Node)

section

variable {document document' : Node} {before after : List (Node × Node)} {k v : Node}
  {s : Settings}

theorem ofNode_added_of_no_text (mapping : document.untag = .mapping (before ++ after))
    (mapping' : document'.untag = .mapping (before ++ (k, v) :: after))
    (accepted : ofNode document = .ok s) (h : text? k = none) :
    ofNode document' = .error (.mismatch k.shape "field identifier") := by
  rw [ofNode_of_mapping mapping, readMembers_append] at accepted
  obtain ⟨g, hread, -⟩ := map_eq_ok accepted
  obtain ⟨g, hbefore, -⟩ := bind_eq_ok hread
  rw [ofNode_of_mapping mapping', readMembers_append, hbefore, ok_bind,
    readMembers_of_no_text g after h]
  rfl

theorem ofNode_added_of_unnamed (mapping : document.untag = .mapping (before ++ after))
    (mapping' : document'.untag = .mapping (before ++ (k, v) :: after))
    (htext : (text? k).isSome) (h : named? (k, v) = none) : ofNode document' = ofNode document := by
  have hskip (g : Given) : g.readMembers ((k, v) :: after) = g.readMembers after :=
    readMembers_of_unnamed g after htext h
  rw [ofNode_of_mapping mapping', ofNode_of_mapping mapping, readMembers_append,
    readMembers_append, funext hskip]

theorem exists_ofNode_added_iff {key : Key} (mapping : document.untag = .mapping (before ++ after))
    (mapping' : document'.untag = .mapping (before ++ (k, v) :: after))
    (accepted : ofNode document = .ok s) (h : named? (k, v) = some key) :
    (∃ s', ofNode document' = .ok s') ↔
      key ∉ named (before ++ after) ∧ ∃ x, key.read v = .ok x := by
  obtain ⟨fits, distinct⟩ := (exists_ofNode_iff mapping).1 ⟨s, accepted⟩
  have hperm : (before ++ (k, v) :: after).Perm ((k, v) :: (before ++ after)) := List.perm_middle
  have hcons : named ((k, v) :: (before ++ after)) = key :: named (before ++ after) :=
    List.filterMap_cons_some h
  have hnamed : (named (before ++ (k, v) :: after)).Perm (key :: named (before ++ after)) :=
    hcons ▸ hperm.filterMap named?
  have hfits : (∀ m ∈ before ++ (k, v) :: after, Fits m) ↔ Fits (k, v) := by
    simp only [hperm.mem_iff, List.forall_mem_cons]
    exact and_iff_left fits
  rw [exists_ofNode_iff mapping', hnamed.nodup_iff, List.nodup_cons, hfits, fits_iff_of_named h,
    and_iff_left distinct, and_comm]

theorem get_ofNode_added {key other : Key} {s' : Settings}
    (mapping : document.untag = .mapping (before ++ after))
    (mapping' : document'.untag = .mapping (before ++ (k, v) :: after))
    (accepted : ofNode document = .ok s) (accepted' : ofNode document' = .ok s')
    (h : named? (k, v) = some key) (hne : other ≠ key) : s'.get other = s.get other := by
  have hnone : value? other (k, v) = none :=
    value?_eq_none fun hother => hne (Option.some.inj (hother.symm.trans h))
  rw [get_ofNode mapping' accepted', get_ofNode mapping accepted, List.findSome?_append,
    List.findSome?_append, List.findSome?_cons, hnone]

end

/-- What a member more does is told by its key.  No other setting than the one that it gives
changes, and the document holds it in any case. -/
theorem ofText_added {text text' : List Char} {loaded : Loaded} {document' k v : Node}
    {before after : List (Node × Node)} (accepted : ofText text = .ok loaded)
    (mapping : loaded.document.untag = .mapping (before ++ after))
    (read : Node.ofText? text' = some document')
    (mapping' : document'.untag = .mapping (before ++ (k, v) :: after)) :
    (k, v) ∈ members document' ∧
    (text? k = none → ofText text' = .error (.mismatch k.shape "field identifier")) ∧
    (∀ s, text? k = some s → (∀ key : Key, s ≠ key.name.toList) →
      ofText text' = .ok ⟨loaded.settings, document'⟩) ∧
    ∀ key : Key, text? k = some key.name.toList →
      ((∃ loaded', ofText text' = .ok loaded') ↔
        key ∉ named (before ++ after) ∧ ∃ x, key.read v = .ok x) ∧
      ∀ loaded', ofText text' = .ok loaded' →
        key.read v = .ok (loaded'.settings.get key) ∧
          ∀ other ≠ key, loaded'.settings.get other = loaded.settings.get other := by
  obtain ⟨-, hsettings⟩ := ofText_eq_ok_iff.1 accepted
  refine ⟨?_, fun h => ?_, fun s htext h => ?_, fun key hkey => ?_⟩
  · rw [members, mapping']
    exact List.mem_append_right before (List.mem_cons_self ..)
  · rw [ofText_of_read read, ofNode_added_of_no_text mapping mapping' hsettings h]
    rfl
  · have hnone : named? (k, v) = none := by
      rw [Option.eq_none_iff_forall_ne_some]
      intro key hkey
      exact h key (Option.some.inj (htext.symm.trans (named?_eq_some_iff.1 hkey)))
    rw [ofText_of_read read, ofNode_added_of_unnamed mapping mapping' (by rw [htext]; rfl) hnone,
      hsettings]
    rfl
  · have hnamed : named? (k, v) = some key := named?_eq_some_iff.2 hkey
    refine ⟨?_, fun loaded' accepted' => ?_⟩
    · rw [exists_ofText_iff read, exists_ofNode_added_iff mapping mapping' hsettings hnamed]
    · obtain ⟨hread, hsettings'⟩ := ofText_eq_ok_iff.1 accepted'
      obtain rfl : document' = loaded'.document := Option.some.inj (read.symm.trans hread)
      refine ⟨get_of_mem mapping' hsettings' ?_ hnamed, fun other hne => ?_⟩
      · exact List.mem_append_right before (List.mem_cons_self ..)
      · exact get_ofNode_added mapping mapping' hsettings hsettings' hnamed hne

theorem ofText_added_port :
    let node (s : String) : Node := .scalar (.text s.toList)
    let label := (node "label", node "a")
    let port := (node "port", .scalar (.integer 5))
    let text := "label: a\n".toList
    let text' := "label: a\nport: 5\n".toList
    ∃ loaded, ofText text = .ok loaded ∧ loaded.document.untag = .mapping ([label] ++ []) ∧
      Node.ofText? text' = some (.mapping [label, port]) ∧
      (Node.mapping [label, port]).untag = .mapping ([label] ++ port :: []) ∧
      ofText text' = .ok ⟨loaded.settings, .mapping [label, port]⟩ := by
  intro node label port text text'
  have read : Node.ofText? text = some (.mapping [label]) :=
    Node.ofText?_eq_some (by decide +kernel)
  have read' : Node.ofText? text' = some (.mapping [label, port]) :=
    Node.ofText?_eq_some (by decide +kernel)
  obtain ⟨s, hs⟩ : ∃ s, ofNode (.mapping [label]) = .ok s := ⟨_, rfl⟩
  have accepted : ofText text = .ok ⟨s, .mapping [label]⟩ := ofText_eq_ok_iff.2 ⟨read, hs⟩
  have mapping : (Node.mapping [label]).untag = .mapping ([label] ++ []) := rfl
  have mapping' : (Node.mapping [label, port]).untag = .mapping ([label] ++ port :: []) := rfl
  obtain ⟨-, -, hunnamed, -⟩ := ofText_added accepted mapping read' mapping'
  exact ⟨_, accepted, rfl, read', rfl, hunnamed _ rfl fun key => by cases key <;> decide⟩

/-- A number is refused as a key, though no setting has such a name. -/
theorem ofText_added_number :
    let node (s : String) : Node := .scalar (.text s.toList)
    let label := (node "label", node "a")
    let five := (.scalar (.integer 5), node "x")
    ∃ loaded, ofText "label: a\n".toList = .ok loaded ∧ loaded.document = .mapping [label] ∧
      Node.ofText? "label: a\n5: x\n".toList = some (.mapping [label, five]) ∧
      ofText "label: a\n5: x\n".toList = .error (.mismatch (.integer 5) "field identifier") := by
  intro node label five
  have read : Node.ofText? "label: a\n".toList = some (.mapping [label]) :=
    Node.ofText?_eq_some (by decide +kernel)
  have read' : Node.ofText? "label: a\n5: x\n".toList = some (.mapping [label, five]) :=
    Node.ofText?_eq_some (by decide +kernel)
  exact ⟨⟨_, _⟩, ofText_eq_ok_iff.2 ⟨read, rfl⟩, rfl, read', ofText_of_read read'⟩

end FlowLines.Settings
