import FlowLines.Proofs.CommandLine.Reading

/-! Which command lines begin a run: those that say things that fit, no slot twice.  What a reading
comes to is known, as arguments say one thing only, so that what is left is that none is refused. -/

namespace FlowLines.CommandLine

namespace Reading

variable {r : Reading} {items : List Item} {mode : Mode}

theorem Gave.unseen (gave : r.Gave items) {item : Item} (h : Askable (items ++ [item]))
    {s : Switch} (hs : s ≠ .verbose) (hslot : item.slot = .switch s) : s ∉ r.seen := by
  intro hseen
  have hle := h.once (.switch s) fun heq => hs (Slot.switch.inj heq)
  rw [List.map_append, List.count_append, gave.seen s hs, if_pos hseen] at hle
  simp [hslot] at hle

theorem ne_verbose {s : Switch} (h : s.value?.isSome) : s ≠ .verbose := by
  rintro rfl
  cases h

theorem settle_of_none (h : r.waiting = none) : ∃ r', r.settle = .ok r' :=
  ⟨r, by rw [settle, h]⟩

theorem Gave.settle_of_value (gave : r.Gave items) {slot : Slot} {text : String}
    (hw : r.waiting = some (slot, some text)) (h : Askable (items ++ [.value slot text]))
    (valued : ∀ s, slot = .switch s → s.value?.isSome) : ∃ r', r.settle = .ok r' := by
  have hset := setValue_of_fits (o := r.options) (h.fits (.value slot text) (by simp))
  cases slot with
  | input =>
    refine ⟨{ r with options := r.options.adding (.value .input text), waiting := none }, ?_⟩
    simp only [Reading.settle, hw, ok_bind, hset]
    rfl
  | switch s =>
    have hunseen := gave.unseen h (ne_verbose (valued s rfl)) rfl
    refine ⟨{ r with
      options := r.options.adding (.value (.switch s) text)
      waiting := none
      seen := s :: r.seen }, ?_⟩
    simp only [Reading.settle, hw, see, if_neg hunseen, ok_bind, hset]
    rfl

theorem Holds.settles (holds : r.Holds mode items) (ready : ∀ s, mode ≠ .value s)
    (h : Askable items) : ∃ r', r.settle = .ok r' := by
  obtain ⟨given, gave, rfl⟩ := holds.heard
  match hw : r.waiting with
  | none => exact settle_of_none hw
  | some (slot, none) =>
    obtain ⟨s, -, hmode⟩ := (holds.waiting slot).1 hw
    exact absurd hmode (ready s)
  | some (slot, some text) =>
    rw [pending_of_waiting hw] at h
    refine gave.settle_of_value hw h ?_
    rintro s rfl
    exact holds.valued s _ hw

theorem Holds.takesFlag (holds : r.Holds .anything items) {s : Switch}
    (h : Askable (items ++ [.flag s])) (extent : Help.Extent) :
    ∃ r', r.takeFlag s extent = .ok r' := by
  obtain ⟨r₁, settles⟩ := holds.settles nofun h.of_append
  obtain ⟨gave, -, -, -⟩ := holds.settle settles
  have hunseen (hs : s ≠ .verbose) : s ∉ r₁.seen := gave.unseen h hs rfl
  obtain ⟨hhelp, hversion⟩ : s ≠ .help ∧ s ≠ .version := h.fits (.flag s) (by simp)
  simp only [Reading.takeFlag, settles, mapError_ok, ok_bind]
  split
  · exact absurd rfl hhelp
  · exact absurd rfl hversion
  · exact ⟨_, rfl⟩
  · next hverbose =>
    simp only [see, if_neg (hunseen hverbose)]
    exact ⟨_, rfl⟩

theorem Holds.begins (holds : r.Holds .anything items) {s : Switch} (hvalue : s.value?.isSome)
    (attached : Option String) (h : Askable (items ++ (begun s attached).1)) :
    ∃ r', r.begin s attached = .ok r' := by
  obtain ⟨r₁, settles⟩ := holds.settles nofun h.of_append
  obtain ⟨gave, waiting, -, -⟩ := holds.settle settles
  simp only [Reading.begin, settles, ok_bind]
  cases attached with
  | none => exact ⟨_, rfl⟩
  | some text =>
    refine (gave.wait waiting s (some text)).settle_of_value rfl h ?_
    rintro t ⟨⟩
    exact hvalue

theorem Holds.takesShort {letters : List Char} {new : List Item} {mode' : Mode}
    (said : Letters letters new mode') (holds : r.Holds .anything items)
    (h : Askable (items ++ new)) : ∃ r', Reading.takeShort letters r = .ok r' := by
  induction said generalizing r items with
  | nil => exact ⟨r, rfl⟩
  | @flag c s rest later mode hs hvalue _ ih =>
    rw [List.append_cons] at h
    obtain ⟨r₁, htake⟩ := holds.takesFlag h.of_append .summary
    obtain ⟨r', hrest⟩ := ih (holds.takeFlag htake) h
    refine ⟨r', ?_⟩
    simp only [Reading.takeShort, hs, hvalue, htake, ok_bind]
    exact hrest
  | @awaited c s hs hvalue =>
    obtain ⟨r', hbegin⟩ := holds.begins hvalue none h
    refine ⟨r', ?_⟩
    simp only [Reading.takeShort, hs, hvalue, if_true, hbegin]
    rfl
  | @attached c s text hs hvalue htext =>
    obtain ⟨r', hbegin⟩ := holds.begins hvalue (some (String.ofList (behindEquals text))) h
    refine ⟨r', ?_⟩
    simp only [Reading.takeShort, hs, hvalue, if_true]
    unfold behindEquals at hbegin
    split
    · exact absurd rfl htext
    · exact congrArg (Except.mapError Stop.usage) hbegin
    · next hequals =>
      split at hbegin
      · exact absurd rfl (hequals _)
      · exact congrArg (Except.mapError Stop.usage) hbegin

theorem Holds.takesLong {s : Switch} {rest : String} {new : List Item} {mode' : Mode}
    (said : Long s rest new mode') (holds : r.Holds .anything items)
    (h : Askable (items ++ new)) : ∃ r', r.takeLong (s.long.toList ++ rest.toList) = .ok r' := by
  simp only [Reading.takeLong, said.takeWhile, List.drop_left, ofLong?_long]
  cases said with
  | flag hvalue =>
    obtain ⟨r', htake⟩ := holds.takesFlag h .full
    refine ⟨r', ?_⟩
    simp [hvalue, htake]
  | awaited hvalue =>
    obtain ⟨r', hbegin⟩ := holds.begins hvalue none h
    refine ⟨r', ?_⟩
    simp [hvalue, hbegin]
  | @attached text hvalue =>
    obtain ⟨r', hbegin⟩ := holds.begins hvalue (some text) h
    refine ⟨r', ?_⟩
    simp [hvalue, hbegin]

theorem Holds.takesInput (holds : r.Holds mode items) (ready : ∀ s, mode ≠ .value s)
    {argument : String} (h : Askable (items ++ [.value .input argument])) :
    ∃ r', r.takeValue argument = .ok r' := by
  obtain ⟨r₁, settles⟩ := holds.settles ready h.of_append
  have hunseen : ¬ r.inputSeen = true := by
    obtain ⟨given, gave, rfl⟩ := holds.heard
    intro hseen
    have hle := h.once .input nofun
    rw [List.map_append, List.count_append, gave.inputs, if_pos hseen] at hle
    exact absurd hle (by simp [Item.slot])
  unfold Reading.takeValue
  split
  · exact ⟨_, rfl⟩
  · rw [if_neg hunseen, settles]
    exact ⟨_, rfl⟩

theorem Holds.onlyInput_eq_false (holds : r.Holds mode items) (h : mode ≠ .onlyInput) :
    r.onlyInput = false := by
  simpa [h] using holds.onlyInput

theorem Holds.takesAwaited {s : Switch} (holds : r.Holds (.value s) items) (argument : String) :
    ∃ r', r.takeValue argument = .ok r' := by
  have honly := holds.onlyInput_eq_false (by simp)
  have hw : r.waiting = some (.switch s, none) := (holds.waiting _).2 ⟨s, rfl, rfl⟩
  simp only [Reading.takeValue, honly, hw]
  exact ⟨_, rfl⟩

theorem take_of_isPlain {argument : String} (h : IsPlain argument) :
    r.take argument = r.takeValue argument := by
  unfold Reading.take
  split
  · rfl
  · next htext => exact absurd h (not_isPlain htext)
  · rfl
  · next htext => exact absurd h (not_isPlain htext)
  · next text _ hempty _ _ htext =>
    cases text with
    | nil => exact absurd rfl hempty
    | cons c rest => exact absurd h (not_isPlain htext)
  · rfl

theorem Holds.takes {argument : String} {new : List Item} {mode' : Mode}
    (said : Says mode argument new mode') (holds : r.Holds mode items)
    (h : Askable (items ++ new)) : ∃ r', r.take argument = .ok r' := by
  cases said with
  | input plain =>
    rw [take_of_isPlain plain]
    exact holds.takesInput (by simp) h
  | awaited plain =>
    rw [take_of_isPlain plain]
    exact holds.takesAwaited argument
  | dashes =>
    have honly := holds.onlyInput_eq_false (by simp)
    have htext : "--".toList = ['-', '-'] := rfl
    simp only [Reading.take, honly, htext]
    exact ⟨_, rfl⟩
  | behind =>
    have honly : r.onlyInput = true := holds.onlyInput.2 rfl
    simp only [Reading.take, honly]
    exact holds.takesInput (by simp) h
  | @long s rest _ _ hlong =>
    have honly := holds.onlyInput_eq_false (by simp)
    obtain ⟨c, name, hname⟩ := List.exists_cons_of_ne_nil (long_ne_nil s)
    have htext : ("--" ++ s.long ++ rest).toList = '-' :: '-' :: c :: (name ++ rest.toList) := by
      simp [hname]
    have htake := holds.takesLong hlong h
    rw [hname, List.cons_append] at htake
    simp only [Reading.take, honly, htext]
    exact htake
  | @letters c rest _ _ hc hletters =>
    have honly := holds.onlyInput_eq_false (by simp)
    have htake := holds.takesShort hletters h
    simp only [Reading.take, honly, String.toList_ofList]
    split
    · next hfalse => cases hfalse
    · next hlist => exact absurd (List.cons.inj (List.cons.inj hlist).2).1 hc
    · next hlist => cases (List.cons.inj hlist).2
    · next hlist => exact absurd (List.cons.inj (List.cons.inj hlist).2).1 hc
    · next hlist =>
      rw [← (List.cons.inj hlist).2]
      exact htake
    · next hdash => exact absurd rfl (hdash _)

theorem Holds.reads {arguments : List String} {later : List Item}
    (spells : Spells mode arguments later) (holds : r.Holds mode items)
    (h : Askable (items ++ later)) :
    ∃ r₁ r', arguments.foldlM Reading.take r = .ok r₁ ∧ r₁.settle = .ok r' := by
  induction spells generalizing r items with
  | nil ready =>
    rw [List.append_nil] at h
    obtain ⟨r', settles⟩ := holds.settles ready h
    exact ⟨r, r', rfl, settles⟩
  | @cons mode mode' argument arguments new later said _ ih =>
    rw [← List.append_assoc] at h
    obtain ⟨r₂, htake⟩ := holds.takes said h.of_append
    -- What the argument was taken for is what it says, as that is one thing only.
    have hnext : r₂.Holds mode' (items ++ new) := by
      rcases holds.take htake with ⟨new', mode'', said', hnext⟩ | ⟨rfl, ⟨s, rfl⟩, -⟩
      · obtain ⟨rfl, rfl⟩ := said.unique said' rfl
        exact hnext
      · cases said with
        | awaited plain => exact absurd plain (not_isPlain rfl)
    obtain ⟨r₁, r', hread, settles⟩ := ih hnext h
    refine ⟨r₁, r', ?_, settles⟩
    rw [List.foldlM_cons, htake, ok_bind, hread]

end Reading

/-- A run begins exactly if arguments say things that can be asked for together, and it is asked for
just these. -/
theorem parse_eq_ok_iff {arguments : List String} {o : Options} :
    Options.parse arguments = .ok o ↔
      ∃ items, Spells .anything arguments items ∧ Askable items ∧ o = .ofItems items := by
  refine ⟨spells_of_parse, ?_⟩
  rintro ⟨items, hspells, askable, rfl⟩
  obtain ⟨r, r', hread, settles⟩ := Reading.holds_start.reads hspells askable
  have hparse : Options.parse arguments = .ok r'.options := by
    rw [Options.parse, hread, ok_bind, settles]
    rfl
  obtain ⟨other, hother, -, ho⟩ := spells_of_parse hparse
  rw [hparse, ho, hother.unique hspells]

end FlowLines.CommandLine
