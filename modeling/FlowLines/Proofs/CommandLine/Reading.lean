import FlowLines.Proofs.CommandLine.Arguments

/-! The command line is read as its arguments say.  A value waits until the next argument begins, so
between two arguments the items said are those given to their slots and the one that waits. -/

namespace FlowLines.CommandLine

namespace Reading

def pending (r : Reading) : List Item :=
  match r.waiting with
  | some (slot, some text) => [.value slot text]
  | _ => []

def Awaits (r : Reading) : Prop := ∃ slot, r.waiting = some (slot, none)

/-- Items that were given to their slots.  An input is seen when it comes, and a switch with a value
only when that is given. -/
structure Gave (r : Reading) (items : List Item) : Prop where
  options : r.options = items.foldl Options.adding {}
  fits : ∀ item ∈ items, item.Fits
  seen : ∀ s, s ≠ .verbose → (items.map Item.slot).count (.switch s) = if s ∈ r.seen then 1 else 0
  inputs : ((items ++ r.pending).map Item.slot).count .input = if r.inputSeen then 1 else 0

theorem gave_start : ({} : Reading).Gave [] where
  options := rfl
  fits _ h := nomatch h
  seen _ _ := rfl
  inputs := rfl

variable {r r' : Reading} {items : List Item}

theorem Gave.once (gave : r.Gave items) : Once items := by
  intro slot hslot
  cases slot with
  | switch s =>
    rw [gave.seen s fun h => hslot (h ▸ rfl)]
    split <;> decide
  | input =>
    have h := gave.inputs
    rw [List.map_append, List.count_append] at h
    split at h <;> omega

theorem see_ok {s : Switch} (h : r.see s = .ok r') :
    s ∉ r.seen ∧ r' = { r with seen := s :: r.seen } := by
  unfold see at h
  split at h
  · cases h
  · next hs => exact ⟨hs, (Except.ok.inj h).symm⟩

theorem Gave.concat (gave : r.Gave items) {item : Item}
    (options : r'.options = r.options.adding item) (fits : item.Fits)
    (fresh : ∀ s, s ≠ .verbose → item.slot = .switch s → s ∉ r.seen)
    (seen : ∀ s, s ≠ .verbose → (s ∈ r'.seen ↔ s ∈ r.seen ∨ item.slot = .switch s))
    (inputSeen : r'.inputSeen = r.inputSeen)
    (inputs : (r.pending.map Item.slot).count .input =
      ((item :: r'.pending).map Item.slot).count .input) : r'.Gave (items ++ [item]) where
  options := by rw [List.foldl_append, ← gave.options, options]; rfl
  fits other hother := by
    rcases List.mem_append.1 hother with hother | hother
    · exact gave.fits other hother
    · rwa [List.mem_singleton.1 hother]
  seen s hs := by
    have hitems := gave.seen s hs
    have hfresh := fresh s hs
    have hseen := seen s hs
    rw [List.map_append, List.count_append, hitems, List.map_singleton, List.count_singleton]
    by_cases hslot : item.slot = .switch s
    · simp [hslot, hseen, hfresh hslot]
    · simp [hslot, hseen]
  inputs := by
    have hitems := gave.inputs
    rw [List.map_append, List.count_append, inputs] at hitems
    rw [List.append_assoc, List.map_append, List.count_append, inputSeen, ← hitems]
    rfl

theorem settle_ok (h : r.settle = .ok r') :
    (r.waiting = none ∧ r' = r) ∨
    (∃ text o, r.waiting = some (.input, some text) ∧
      setValue .input text r.options = .ok o ∧
      r' = { r with options := o, waiting := none }) ∨
    ∃ s text o, r.waiting = some (.switch s, some text) ∧ s ∉ r.seen ∧
      setValue (.switch s) text r.options = .ok o ∧
      r' = { r with options := o, waiting := none, seen := s :: r.seen } := by
  unfold settle at h
  split at h
  · next hw =>
    cases h
    exact .inl ⟨hw, rfl⟩
  · cases h
  · next slot text hw =>
    cases slot with
    | input =>
      simp only [ok_bind] at h
      obtain ⟨o, ho, h⟩ := bind_eq_ok h
      cases h
      exact .inr (.inl ⟨text, o, hw, ho, rfl⟩)
    | switch s =>
      obtain ⟨r₁, hsee, h⟩ := bind_eq_ok h
      obtain ⟨hs, rfl⟩ := see_ok hsee
      obtain ⟨o, ho, h⟩ := bind_eq_ok h
      cases h
      exact .inr (.inr ⟨s, text, o, hw, hs, ho, rfl⟩)

theorem ready_of_settle (h : r.settle = .ok r') : ¬ r.Awaits := by
  rintro ⟨slot, ha⟩
  rcases settle_ok h with ⟨hw, -⟩ | ⟨_, _, hw, -⟩ | ⟨_, _, _, hw, -⟩ <;> cases hw.symm.trans ha

theorem pending_of_waiting {slot : Slot} {text : String} (h : r.waiting = some (slot, some text)) :
    r.pending = [.value slot text] := by
  rw [pending, h]

theorem pending_of_none (h : r.waiting = none) : r.pending = [] := by rw [pending, h]

theorem Gave.settle (gave : r.Gave items) (h : r.settle = .ok r') :
    r'.Gave (items ++ r.pending) ∧ r'.waiting = none ∧ r'.onlyInput = r.onlyInput ∧
      r'.inputSeen = r.inputSeen := by
  rcases settle_ok h with ⟨hw, rfl⟩ | ⟨text, o, hw, ho, rfl⟩ | ⟨s, text, o, hw, hs, ho, rfl⟩
  · refine ⟨?_, hw, rfl, rfl⟩
    rwa [pending_of_none hw, List.append_nil]
  · refine ⟨?_, rfl, rfl, rfl⟩
    rw [pending_of_waiting hw]
    exact gave.concat (adding_of_setValue ho) (fits_of_setValue ho) (fun _ _ h => nomatch h)
      (by simp [Item.slot]) rfl (by rw [pending_of_waiting hw]; rfl)
  · refine ⟨?_, rfl, rfl, rfl⟩
    rw [pending_of_waiting hw]
    refine gave.concat (adding_of_setValue ho) (fits_of_setValue ho) ?_ ?_ rfl
      (by rw [pending_of_waiting hw]; rfl)
    · rintro t - ⟨⟩
      exact hs
    · simp [Item.slot, eq_comm, or_comm]

theorem Gave.wait (gave : r.Gave items) (waiting : r.waiting = none) (s : Switch)
    (attached : Option String) :
    { r with waiting := some (.switch s, attached) : Reading }.Gave items := by
  have inputs := gave.inputs
  rw [pending_of_none waiting] at inputs
  refine ⟨gave.options, gave.fits, gave.seen, ?_⟩
  cases attached with
  | none => exact inputs
  | some text => simpa [pending, Item.slot] using inputs

theorem Gave.flag (gave : r.Gave items) {s : Switch} (hhelp : s ≠ .help) (hversion : s ≠ .version)
    (h : s = .verbose ∧ r' = { r with options := setSwitch s r.options } ∨ s ∉ r.seen ∧
      r' = { r with seen := s :: r.seen, options := setSwitch s r.options }) :
    r'.Gave (items ++ [.flag s]) ∧ r'.waiting = r.waiting ∧ r'.onlyInput = r.onlyInput := by
  have options := setSwitch_eq s r.options
  have fits : (Item.flag s).Fits := ⟨hhelp, hversion⟩
  rcases h with ⟨rfl, rfl⟩ | ⟨hs, rfl⟩
  · refine ⟨gave.concat options fits ?_ ?_ rfl rfl, rfl, rfl⟩
    · rintro t ht ⟨⟩
      exact absurd rfl ht
    · intro t ht
      simp [Item.slot, ht.symm]
  · refine ⟨gave.concat options fits ?_ ?_ rfl rfl, rfl, rfl⟩
    · rintro t - ⟨⟩
      exact hs
    · simp [Item.slot, eq_comm, or_comm]

theorem takeFlag_ok {s : Switch} {extent : Help.Extent} (h : r.takeFlag s extent = .ok r') :
    ∃ r₁, r.settle = .ok r₁ ∧ s ≠ .help ∧ s ≠ .version ∧
      (s = .verbose ∧ r' = { r₁ with options := setSwitch s r₁.options } ∨
        s ∉ r₁.seen ∧
          r' = { r₁ with seen := s :: r₁.seen, options := setSwitch s r₁.options }) := by
  obtain ⟨r₁, h₁, h⟩ := bind_eq_ok h
  refine ⟨r₁, mapError_eq_ok h₁, ?_⟩
  split at h
  · cases h
  · cases h
  · cases h
    exact ⟨nofun, nofun, .inl ⟨rfl, rfl⟩⟩
  · next hhelp hversion _ =>
    obtain ⟨r₂, h₂, h⟩ := bind_eq_ok h
    obtain ⟨hs, rfl⟩ := see_ok (mapError_eq_ok h₂)
    cases h
    exact ⟨hhelp, hversion, .inr ⟨hs, rfl⟩⟩

theorem begin_ok {s : Switch} {attached : Option String} (h : r.begin s attached = .ok r') :
    ∃ r₁, r.settle = .ok r₁ ∧
      (attached = none ∧ r' = { r₁ with waiting := some (.switch s, none) } ∨
        ∃ text, attached = some text ∧
          { r₁ with waiting := some (.switch s, some text) : Reading }.settle = .ok r') := by
  obtain ⟨r₁, h₁, h⟩ := bind_eq_ok h
  refine ⟨r₁, h₁, ?_⟩
  cases attached with
  | none => exact .inl ⟨rfl, (Except.ok.inj h).symm⟩
  | some text => exact .inr ⟨text, rfl, h⟩

/-- Between two arguments: what was said so far, and what can come next. -/
structure Holds (r : Reading) (mode : Mode) (items : List Item) : Prop where
  heard : ∃ given, r.Gave given ∧ items = given ++ r.pending
  onlyInput : r.onlyInput = true ↔ mode = .onlyInput
  waiting : ∀ slot, r.waiting = some (slot, none) ↔ ∃ s, slot = .switch s ∧ mode = .value s
  valued : ∀ s text?, r.waiting = some (.switch s, text?) → s.value?.isSome

variable {mode : Mode}

theorem holds_start : ({} : Reading).Holds .anything [] where
  heard := ⟨[], gave_start, rfl⟩
  onlyInput := by decide
  waiting slot := by simp
  valued _ _ h := nomatch h

theorem Gave.holds (gave : r.Gave items) (waiting : r.waiting = none)
    (onlyInput : r.onlyInput = true ↔ mode = .onlyInput) (ready : ∀ s, mode ≠ .value s) :
    r.Holds mode items where
  heard := ⟨items, gave, by rw [pending_of_none waiting, List.append_nil]⟩
  onlyInput := onlyInput
  waiting slot := by simp [waiting, ready]
  valued _ _ h := nomatch waiting.symm.trans h

theorem Holds.settle (holds : r.Holds mode items) (h : r.settle = .ok r') :
    r'.Gave items ∧ r'.waiting = none ∧ (r'.onlyInput = true ↔ mode = .onlyInput) ∧
      r'.inputSeen = r.inputSeen := by
  obtain ⟨given, gave, rfl⟩ := holds.heard
  obtain ⟨gave', waiting, honlyInput, inputSeen⟩ := gave.settle h
  exact ⟨gave', waiting, honlyInput ▸ holds.onlyInput, inputSeen⟩

theorem Holds.takeFlag (holds : r.Holds .anything items) {s : Switch} {extent : Help.Extent}
    (h : r.takeFlag s extent = .ok r') : r'.Holds .anything (items ++ [.flag s]) := by
  obtain ⟨r₁, h₁, hhelp, hversion, h⟩ := takeFlag_ok h
  obtain ⟨gave, waiting, onlyInput, -⟩ := holds.settle h₁
  obtain ⟨gave', waiting', honlyInput⟩ := gave.flag hhelp hversion h
  exact gave'.holds (waiting'.trans waiting) (honlyInput ▸ onlyInput) nofun

def begun (s : Switch) : Option String → List Item × Mode
  | none => ([], .value s)
  | some text => ([.value (.switch s) text], .anything)

theorem Holds.begin (holds : r.Holds .anything items) {s : Switch} (hvalue : s.value?.isSome)
    {attached : Option String} (h : r.begin s attached = .ok r') :
    r'.Holds (begun s attached).2 (items ++ (begun s attached).1) := by
  obtain ⟨r₁, h₁, began⟩ := begin_ok h
  obtain ⟨gave, waiting, onlyInput, -⟩ := holds.settle h₁
  have waits := gave.wait waiting s
  rcases began with ⟨rfl, rfl⟩ | ⟨text, rfl, settles⟩
  · refine ⟨⟨items, waits none, rfl⟩, ?_, ?_, ?_⟩
    · simpa [begun] using onlyInput
    · simp [begun, eq_comm]
    · rintro t text? ⟨⟩
      exact hvalue
  · obtain ⟨gave', waiting', honlyInput, -⟩ := (waits (some text)).settle settles
    exact gave'.holds waiting' (honlyInput ▸ onlyInput) nofun

theorem Holds.takeShort {letters : List Char} (holds : r.Holds .anything items)
    (h : takeShort letters r = .ok r') :
    ∃ new mode, Letters letters new mode ∧ r'.Holds mode (items ++ new) := by
  induction letters generalizing r items with
  | nil =>
    cases h
    exact ⟨[], .anything, .nil, by rwa [List.append_nil]⟩
  | cons c rest ih =>
    simp only [Reading.takeShort] at h
    split at h
    · cases h
    · next s hs =>
      split at h
      · next hvalue =>
        refine ⟨_, _, ?_, holds.begin hvalue (mapError_eq_ok h)⟩
        split
        · exact .awaited hs hvalue
        · exact .attached hs hvalue (List.cons_ne_nil _ _)
        · next hempty hequals =>
          have hbehind : behindEquals rest = rest := by
            unfold behindEquals
            split
            · exact absurd rfl (hequals _)
            · rfl
          have attached := Letters.attached hs hvalue hempty
          rwa [hbehind] at attached
      · next hvalue =>
        obtain ⟨r₁, h₁, h⟩ := bind_eq_ok h
        obtain ⟨new, mode, hletters, hnew⟩ := ih (holds.takeFlag h₁) h
        refine ⟨.flag s :: new, mode, .flag hs (by simpa using hvalue) hletters, ?_⟩
        rwa [List.append_assoc] at hnew

theorem name_and_value (text : List Char) :
    let name := text.takeWhile (· ≠ '=')
    text.drop name.length = [] ∧ text = name ∨
      ∃ value, text.drop name.length = '=' :: value ∧ text = name ++ '=' :: value := by
  intro name
  have htext : name ++ text.dropWhile (· ≠ '=') = text := List.takeWhile_append_dropWhile
  have hdrop : text.drop name.length = text.dropWhile (· ≠ '=') := by
    rw [← htext, List.drop_left, htext]
  cases hrest : text.dropWhile (· ≠ '=') with
  | nil =>
    rw [hrest, List.append_nil] at htext
    exact .inl ⟨hdrop.trans hrest, htext.symm⟩
  | cons c value =>
    have hc := List.head?_dropWhile_not (· ≠ '=') text
    rw [hrest] at hc
    obtain rfl : c = '=' := by simpa using hc
    exact .inr ⟨value, hdrop.trans hrest, (hrest ▸ htext).symm⟩

theorem long_of_ofLong? {name : List Char} {s : Switch} (h : Switch.ofLong? name = some s) :
    s.long.toList = name := by
  simpa using List.find?_some h

theorem Holds.takeLong {text : List Char} (holds : r.Holds .anything items)
    (h : r.takeLong text = .ok r') :
    ∃ new mode, Says .anything (String.ofList ('-' :: '-' :: text)) new mode ∧
      r'.Holds mode (items ++ new) := by
  unfold Reading.takeLong at h
  dsimp only at h
  split at h
  · cases h
  · next s hs =>
    have hlong := long_of_ofLong? hs
    rcases name_and_value text with ⟨hdrop, htext⟩ | ⟨value, hdrop, htext⟩
    · rw [hdrop] at h
      have hargument : String.ofList ('-' :: '-' :: text) = "--" ++ s.long ++ "" := by
        apply String.toList_injective
        rw [String.toList_ofList, String.append_empty, String.toList_append, hlong, ← htext]
        rfl
      rw [hargument]
      split at h
      · next hvalue => exact ⟨_, _, .long (.awaited hvalue), holds.begin hvalue (mapError_eq_ok h)⟩
      · next hvalue => exact ⟨_, _, .long (.flag (by simpa using hvalue)), holds.takeFlag h⟩
    · rw [hdrop] at h
      have hargument : String.ofList ('-' :: '-' :: text) =
          "--" ++ s.long ++ ("=" ++ String.ofList value) := by
        apply String.toList_injective
        simp only [String.toList_ofList, String.toList_append, hlong]
        conv => lhs; rw [htext]
        simp
      rw [hargument]
      split at h
      · next hvalue => exact ⟨_, _, .long (.attached hvalue), holds.begin hvalue (mapError_eq_ok h)⟩
      · cases h

theorem Holds.ready (holds : r.Holds mode items) (h : ¬ r.Awaits) (s : Switch) :
    mode ≠ .value s := by
  rintro rfl
  exact h ⟨_, (holds.waiting _).2 ⟨s, rfl, rfl⟩⟩

theorem Holds.takeValue {argument : String} (holds : r.Holds mode items)
    (h : r.takeValue argument = .ok r') (plain : mode ≠ .onlyInput → IsPlain argument) :
    ∃ new mode', Says mode argument new mode' ∧ r'.Holds mode' (items ++ new) := by
  unfold Reading.takeValue at h
  split at h
  · next slot honly hw =>
    obtain ⟨s, rfl, rfl⟩ := (holds.waiting slot).1 hw
    cases h
    refine ⟨_, _, .awaited (plain nofun), ?_, ?_, ?_, ?_⟩
    · obtain ⟨given, gave, rfl⟩ := holds.heard
      have hpending : r.pending = [] := by rw [pending, hw]
      have inputs := gave.inputs
      rw [hpending] at inputs ⊢
      refine ⟨given, ⟨gave.options, gave.fits, gave.seen, ?_⟩, by rw [List.append_nil]; rfl⟩
      simpa [pending, Item.slot] using inputs
    · simp [honly]
    · simp
    · rintro t text? ⟨⟩
      exact holds.valued s none hw
  · split at h
    · cases h
    · next hinput =>
      obtain ⟨r₁, h₁, h⟩ := bind_eq_ok h
      cases h
      have settles := mapError_eq_ok h₁
      obtain ⟨gave, waiting, onlyInput, inputSeen⟩ := holds.settle settles
      have ready := holds.ready (ready_of_settle settles)
      have inputs := gave.inputs
      rw [pending_of_none waiting, inputSeen, if_neg hinput, List.append_nil] at inputs
      refine ⟨[.value .input argument], mode, ?_,
        ⟨items, ⟨gave.options, gave.fits, gave.seen, ?_⟩, rfl⟩, onlyInput, ?_,
        fun _ _ h => nomatch h⟩
      · cases mode with
        | anything => exact .input (plain nofun)
        | value s => exact absurd rfl (ready s)
        | onlyInput => exact .behind
      · simp [pending, Item.slot, inputs]
      · simp [ready]

def Stuck (r : Reading) : Prop := r.onlyInput = true ∧ r.Awaits

theorem Holds.value_of_awaits (holds : r.Holds mode items) (h : r.Awaits) :
    ∃ s, mode = .value s := by
  obtain ⟨slot, hw⟩ := h
  obtain ⟨s, -, hmode⟩ := (holds.waiting slot).1 hw
  exact ⟨s, hmode⟩

theorem ready_of_begin {s : Switch} {attached : Option String} (h : r.begin s attached = .ok r') :
    ¬ r.Awaits :=
  have ⟨_, settles, _⟩ := begin_ok h
  ready_of_settle settles

theorem ready_of_takeFlag {s : Switch} {extent : Help.Extent} (h : r.takeFlag s extent = .ok r') :
    ¬ r.Awaits :=
  have ⟨_, settles, _⟩ := takeFlag_ok h
  ready_of_settle settles

theorem ready_of_takeLong {text : List Char} (h : r.takeLong text = .ok r') : ¬ r.Awaits := by
  unfold Reading.takeLong at h
  dsimp only at h
  split at h
  · cases h
  · split at h
    · exact ready_of_begin (mapError_eq_ok h)
    · split at h
      · cases h
      · exact ready_of_takeFlag h

theorem ready_of_takeShort {c : Char} {rest : List Char} (h : takeShort (c :: rest) r = .ok r') :
    ¬ r.Awaits := by
  simp only [Reading.takeShort] at h
  split at h
  · cases h
  · split at h
    · exact ready_of_begin (mapError_eq_ok h)
    · obtain ⟨r₁, h₁, -⟩ := bind_eq_ok h
      exact ready_of_takeFlag h₁

theorem Holds.anything (holds : r.Holds mode items) (honly : r.onlyInput = false)
    (ready : ¬ r.Awaits) : mode = .anything := by
  cases mode with
  | anything => rfl
  | value s => exact absurd rfl (holds.ready ready s)
  | onlyInput => exact absurd (holds.onlyInput.2 rfl) (by simp [honly])

theorem Holds.take {argument : String} (holds : r.Holds mode items) (h : r.take argument = .ok r') :
    (∃ new mode', Says mode argument new mode' ∧ r'.Holds mode' (items ++ new)) ∨
      argument = "--" ∧ (∃ s, mode = .value s) ∧ r'.Stuck := by
  have hargument : argument = String.ofList argument.toList := String.ofList_toList.symm
  unfold Reading.take at h
  split at h
  · next honly => exact .inl (holds.takeValue h fun hmode => absurd (holds.onlyInput.1 honly) hmode)
  · next honly htext =>
    cases h
    -- Two dashes do not settle anything, so it can be that a value is awaited behind them.
    rw [htext] at hargument
    by_cases hawaits : r.Awaits
    · exact .inr ⟨hargument, holds.value_of_awaits hawaits, rfl, hawaits⟩
    · obtain rfl := holds.anything honly hawaits
      refine .inl ⟨[], .onlyInput, hargument ▸ .dashes, ?_, ?_, ?_, ?_⟩
      · obtain ⟨given, gave, rfl⟩ := holds.heard
        exact ⟨given, ⟨gave.options, gave.fits, gave.seen, gave.inputs⟩, List.append_nil _⟩
      · simp
      · intro slot
        simpa using holds.waiting slot
      · exact holds.valued
  · next htext =>
    exact .inl (holds.takeValue h fun _ => .inl (hargument.trans (congrArg String.ofList htext)))
  · next text honly htext =>
    obtain rfl := holds.anything honly (ready_of_takeLong h)
    rw [hargument, htext]
    exact .inl (holds.takeLong h)
  · next text _ hempty hlong honly htext =>
    cases text with
    | nil => exact absurd rfl hempty
    | cons c rest =>
      obtain rfl := holds.anything honly (ready_of_takeShort h)
      obtain ⟨new, mode', hletters, hnew⟩ := holds.takeShort h
      rw [hargument, htext]
      exact .inl ⟨new, mode', .letters (fun hc => hlong rest (by rw [hc])) hletters, hnew⟩
  · next honly _ _ _ hdash =>
    refine .inl (holds.takeValue h fun _ => .inr fun hhead => ?_)
    obtain ⟨rest, hrest⟩ := List.head?_eq_some_iff.1 hhead
    exact hdash rest hrest

theorem not_ok_of_stuck {arguments : List String} {r₁ : Reading} (stuck : r.Stuck)
    (h : arguments.foldlM Reading.take r = .ok r₁) : r₁.settle ≠ .ok r' := by
  intro hsettle
  cases arguments with
  | nil =>
    cases h
    exact ready_of_settle hsettle stuck.2
  | cons argument arguments =>
    obtain ⟨r₂, h₂, -⟩ := bind_eq_ok h
    rw [Reading.take, stuck.1] at h₂
    dsimp only at h₂
    rw [Reading.takeValue, stuck.1] at h₂
    dsimp only at h₂
    split at h₂
    · cases h₂
    · obtain ⟨r₃, h₃, -⟩ := bind_eq_ok h₂
      exact ready_of_settle (mapError_eq_ok h₃) stuck.2

theorem Holds.foldlM {arguments : List String} {r₁ : Reading} (holds : r.Holds mode items)
    (h : arguments.foldlM Reading.take r = .ok r₁) (hsettle : r₁.settle = .ok r') :
    ∃ later, Spells mode arguments later ∧ r'.Gave (items ++ later) := by
  induction arguments generalizing r mode items with
  | nil =>
    cases h
    refine ⟨[], .nil (holds.ready (ready_of_settle hsettle)), ?_⟩
    rw [List.append_nil]
    exact (holds.settle hsettle).1
  | cons argument arguments ih =>
    obtain ⟨r₂, htake, h⟩ := bind_eq_ok h
    rcases holds.take htake with ⟨new, mode', said, hnext⟩ | ⟨-, -, stuck⟩
    · obtain ⟨later, hspells, gave⟩ := ih hnext h
      refine ⟨new ++ later, .cons said hspells, ?_⟩
      rwa [← List.append_assoc]
    · exact absurd hsettle (not_ok_of_stuck stuck h)

end Reading

theorem spells_of_parse {arguments : List String} {o : Options}
    (h : Options.parse arguments = .ok o) :
    ∃ items, Spells .anything arguments items ∧ Askable items ∧ o = .ofItems items := by
  obtain ⟨r, hread, h⟩ := bind_eq_ok h
  obtain ⟨r', hsettle, h⟩ := bind_eq_ok h
  cases h
  obtain ⟨items, hspells, gave⟩ := Reading.holds_start.foldlM hread (mapError_eq_ok hsettle)
  exact ⟨items, hspells, ⟨gave.once, gave.fits⟩, gave.options.trans gave.once.foldl_adding⟩

end FlowLines.CommandLine
