import FlowLines.CommandLine.Options
import FlowLines.Proofs.Except

/-! What the arguments of the program say, as a list of items, and what the items ask for. -/

namespace FlowLines.CommandLine

/-- One thing that is said: that a switch is set, or what the value of a slot is. -/
inductive Item
  | flag (switch : Switch)
  | value (slot : Slot) (text : String)
  deriving DecidableEq

namespace Item

def slot : Item → Slot
  | flag s => .switch s
  | value slot _ => slot

def text? (slot : Slot) : Item → Option String
  | flag _ => none
  | value other text => if other = slot then some text else none

end Item

/-- What the next argument can be: anything, the value of a switch, or the input alone. -/
inductive Mode
  | anything
  | value (switch : Switch)
  | onlyInput
  deriving DecidableEq

/-- A dash begins a switch unless it stands alone. -/
def IsPlain (argument : String) : Prop := argument = "-" ∨ argument.toList.head? ≠ some '-'

/-- An equals sign between a letter and its value does not count. -/
def behindEquals : List Char → List Char
  | '=' :: text => text
  | text => text

/-- Letters behind one dash, of which only the last can be a switch with a value. -/
inductive Letters : List Char → List Item → Mode → Prop
  | nil : Letters [] [] .anything
  | flag {c : Char} {s : Switch} {rest : List Char} {items : List Item} {mode : Mode} :
      Switch.ofShort? c = some s → s.value? = none → Letters rest items mode →
      Letters (c :: rest) (.flag s :: items) mode
  | awaited {c : Char} {s : Switch} : Switch.ofShort? c = some s → s.value?.isSome →
      Letters [c] [] (.value s)
  | attached {c : Char} {s : Switch} {text : List Char} : Switch.ofShort? c = some s →
      s.value?.isSome → text ≠ [] →
      Letters (c :: text) [.value (.switch s) (String.ofList (behindEquals text))] .anything

inductive Long (s : Switch) : String → List Item → Mode → Prop
  | flag : s.value? = none → Long s "" [.flag s] .anything
  | awaited : s.value?.isSome → Long s "" [] (.value s)
  | attached {text : String} : s.value?.isSome →
      Long s ("=" ++ text) [.value (.switch s) text] .anything

/-- The items of one argument, between what it can be and what the next can be. -/
inductive Says : Mode → String → List Item → Mode → Prop
  | input {argument : String} : IsPlain argument →
      Says .anything argument [.value .input argument] .anything
  | awaited {argument : String} {s : Switch} : IsPlain argument →
      Says (.value s) argument [.value (.switch s) argument] .anything
  | dashes : Says .anything "--" [] .onlyInput
  | behind {argument : String} : Says .onlyInput argument [.value .input argument] .onlyInput
  | long {s : Switch} {rest : String} {items : List Item} {mode : Mode} :
      Long s rest items mode → Says .anything ("--" ++ s.long ++ rest) items mode
  | letters {c : Char} {rest : List Char} {items : List Item} {mode : Mode} : c ≠ '-' →
      Letters (c :: rest) items mode →
      Says .anything (String.ofList ('-' :: c :: rest)) items mode

/-- The items of all arguments, at the end of which no value is still to come. -/
inductive Spells : Mode → List String → List Item → Prop
  | nil {mode : Mode} : (∀ s, mode ≠ .value s) → Spells mode [] []
  | cons {mode mode' : Mode} {argument : String} {arguments : List String}
      {items later : List Item} : Says mode argument items mode' → Spells mode' arguments later →
      Spells mode (argument :: arguments) (items ++ later)

/-- No slot is used twice, but for the switch that adds up. -/
def Once (items : List Item) : Prop :=
  ∀ slot, slot ≠ .switch .verbose → (items.map Item.slot).count slot ≤ 1

def Item.Fits : Item → Prop
  | .flag s => s ≠ .help ∧ s ≠ .version
  | .value (.switch .format) text => (Format.ofName? text).isSome
  | .value (.switch .resolveTimeout) text => (Time.Span.parse text.toList).toOption.isSome
  | .value (.switch .maxLineLength) text => (readCount text.toList).toOption.isSome
  | .value (.switch .config) text | .value (.switch .output) text | .value .input text => text ≠ ""
  | .value _ _ => True

structure Askable (items : List Item) : Prop where
  once : Once items
  fits : ∀ item ∈ items, item.Fits

def textOf (slot : Slot) (items : List Item) : Option String := items.findSome? (Item.text? slot)

def Options.ofItems (items : List Item) : Options where
  format := (textOf (.switch .format) items).bind Format.ofName?
  label := textOf (.switch .label) items
  noResolve := .flag .noResolve ∈ items
  resolveTimeout := (textOf (.switch .resolveTimeout) items).bind fun text =>
    (Time.Span.parse text.toList).toOption
  config := textOf (.switch .config) items
  output := textOf (.switch .output) items
  noMarker := .flag .noMarker ∈ items
  failFast := .flag .failFast ∈ items
  maxLineLength := ((textOf (.switch .maxLineLength) items).bind fun text =>
    (readCount text.toList).toOption).getD ({} : Feed.Rules).maxLineLength
  stats := .flag .stats ∈ items
  verbosity := items.count (.flag .verbose)
  input := textOf .input items

/-! Arguments say one thing only. -/

section

variable {s : Switch} {items items' : List Item} {mode mode' mode'' : Mode}

theorem ofLong?_long (s : Switch) : Switch.ofLong? s.long.toList = some s := by
  cases s <;> decide +kernel

theorem long_ne_nil (s : Switch) : s.long.toList ≠ [] := by
  cases s <;> decide +kernel

theorem equals_notMem_long (s : Switch) : '=' ∉ s.long.toList := by
  cases s <;> decide +kernel

theorem Letters.unique {letters : List Char} (h : Letters letters items mode)
    (h' : Letters letters items' mode') : items = items' ∧ mode = mode' := by
  induction h generalizing items' mode' with
  | nil =>
    cases h'
    exact ⟨rfl, rfl⟩
  | flag hs hvalue _ ih =>
    cases h' with
    | flag hs' _ hrest' =>
      obtain rfl := Option.some.inj (hs.symm.trans hs')
      obtain ⟨rfl, rfl⟩ := ih hrest'
      exact ⟨rfl, rfl⟩
    | awaited hs' hvalue' | attached hs' hvalue' _ =>
      obtain rfl := Option.some.inj (hs.symm.trans hs')
      rw [hvalue] at hvalue'
      cases hvalue'
  | awaited hs hvalue =>
    cases h' with
    | flag hs' hvalue' _ =>
      obtain rfl := Option.some.inj (hs.symm.trans hs')
      rw [hvalue'] at hvalue
      cases hvalue
    | awaited hs' _ =>
      obtain rfl := Option.some.inj (hs.symm.trans hs')
      exact ⟨rfl, rfl⟩
    | attached _ _ htext => exact absurd rfl htext
  | attached hs hvalue htext =>
    cases h' with
    | flag hs' hvalue' _ =>
      obtain rfl := Option.some.inj (hs.symm.trans hs')
      rw [hvalue'] at hvalue
      cases hvalue
    | awaited _ _ => exact absurd rfl htext
    | attached hs' _ _ =>
      obtain rfl := Option.some.inj (hs.symm.trans hs')
      exact ⟨rfl, rfl⟩

theorem Long.takeWhile {rest : String} (h : Long s rest items mode) :
    (s.long.toList ++ rest.toList).takeWhile (· ≠ '=') = s.long.toList := by
  have hname : ∀ c ∈ s.long.toList, decide (c ≠ '=') = true := by
    intro c hc
    exact decide_eq_true fun heq => equals_notMem_long s (heq ▸ hc)
  have hrest : rest.toList.takeWhile (· ≠ '=') = [] := by
    cases h with
    | flag _ => rfl
    | awaited _ => rfl
    | attached _ => simp
  rw [List.takeWhile_append_of_pos hname, hrest, List.append_nil]

theorem Long.unique {rest rest' : String} (h : Long s rest items mode)
    (h' : Long s rest' items' mode') (heq : rest = rest') : items = items' ∧ mode = mode' := by
  have hlist := congrArg String.toList heq
  cases h with
  | flag hvalue =>
    cases h' with
    | flag _ => exact ⟨rfl, rfl⟩
    | awaited hvalue' | attached hvalue' => rw [hvalue] at hvalue'; cases hvalue'
  | awaited hvalue =>
    cases h' with
    | flag hvalue' => rw [hvalue'] at hvalue; cases hvalue
    | awaited _ => exact ⟨rfl, rfl⟩
    | attached _ => simp at hlist
  | attached hvalue =>
    cases h' with
    | flag hvalue' => rw [hvalue'] at hvalue; cases hvalue
    | awaited _ => simp at hlist
    | attached _ =>
      obtain rfl : _ = _ := String.toList_injective (by simpa using hlist)
      exact ⟨rfl, rfl⟩

theorem not_isPlain {c : Char} {rest : List Char} {argument : String}
    (h : argument.toList = '-' :: c :: rest) : ¬ IsPlain argument := by
  rintro (rfl | hhead)
  · cases h
  · exact hhead (by rw [h]; rfl)

theorem Long.toList {rest : String} (_ : Long s rest items mode) :
    ∃ c name, ("--" ++ s.long ++ rest).toList = '-' :: '-' :: c :: name := by
  obtain ⟨c, name, hname⟩ := List.exists_cons_of_ne_nil (long_ne_nil s)
  exact ⟨c, name ++ rest.toList, by simp [hname]⟩

theorem Long.name_unique {t : Switch} {rest rest' : String} (h : Long s rest items mode)
    (h' : Long t rest' items' mode') (heq : "--" ++ s.long ++ rest = "--" ++ t.long ++ rest') :
    s = t ∧ rest = rest' := by
  have hlist : s.long.toList ++ rest.toList = t.long.toList ++ rest'.toList := by
    simpa using congrArg String.toList heq
  have hname : s.long.toList = t.long.toList := by rw [← h.takeWhile, hlist, h'.takeWhile]
  have hswitch : some s = some t := by rw [← ofLong?_long s, hname, ofLong?_long t]
  rw [hname] at hlist
  exact ⟨Option.some.inj hswitch, String.toList_injective (List.append_cancel_left hlist)⟩

theorem Says.unique {argument argument' : String} (h : Says mode'' argument items mode)
    (h' : Says mode'' argument' items' mode') (heq : argument = argument') :
    items = items' ∧ mode = mode' := by
  have hlist := congrArg String.toList heq
  cases h with
  | awaited _ =>
    cases h' with
    | awaited _ => exact ⟨by rw [heq], rfl⟩
  | behind =>
    cases h' with
    | behind => exact ⟨by rw [heq], rfl⟩
  | input plain =>
    cases h' with
    | input _ => exact ⟨by rw [heq], rfl⟩
    | dashes => exact absurd plain (not_isPlain hlist)
    | long hlong =>
      obtain ⟨c, name, hname⟩ := hlong.toList
      exact absurd plain (not_isPlain (hlist.trans hname))
    | letters _ _ => exact absurd plain (not_isPlain (hlist.trans String.toList_ofList))
  | dashes =>
    cases h' with
    | input plain => exact absurd plain (not_isPlain hlist.symm)
    | dashes => exact ⟨rfl, rfl⟩
    | long hlong =>
      obtain ⟨c, name, hname⟩ := hlong.toList
      cases hlist.trans hname
    | letters hc _ =>
      cases hlist.trans String.toList_ofList
      exact absurd rfl hc
  | long hlong =>
    obtain ⟨c, name, hname⟩ := hlong.toList
    cases h' with
    | input plain => exact absurd plain (not_isPlain (hlist.symm.trans hname))
    | dashes => cases hlist.symm.trans hname
    | long hlong' =>
      obtain ⟨rfl, hrest⟩ := hlong.name_unique hlong' heq
      exact hlong.unique hlong' hrest
    | letters hc _ =>
      cases hname.symm.trans (hlist.trans String.toList_ofList)
      exact absurd rfl hc
  | letters hc hletters =>
    have hletter := String.toList_ofList.symm.trans hlist
    cases h' with
    | input plain => exact absurd plain (not_isPlain hletter.symm)
    | dashes =>
      cases hletter
      exact absurd rfl hc
    | long hlong =>
      obtain ⟨c, name, hname⟩ := hlong.toList
      cases hletter.trans hname
      exact absurd rfl hc
    | letters _ hletters' =>
      cases hletter.trans String.toList_ofList
      exact hletters.unique hletters'

theorem Spells.unique {arguments : List String} (h : Spells mode arguments items)
    (h' : Spells mode arguments items') : items = items' := by
  induction h generalizing items' with
  | nil _ =>
    cases h'
    rfl
  | cons said _ ih =>
    cases h' with
    | cons said' hspells' =>
      obtain ⟨rfl, rfl⟩ := said.unique said' rfl
      rw [ih hspells']

end

/-! Items asked for one after the other. -/

section

variable {o o' : Options} {item : Item} {items : List Item}

theorem textOf_cons (slot : Slot) (item : Item) (items : List Item) :
    textOf slot (item :: items) = (item.text? slot).or (textOf slot items) := by
  rw [textOf, List.findSome?_cons]
  cases item.text? slot <;> rfl

theorem slot_of_text {slot : Slot} {text : String} (h : item.text? slot = some text) :
    item.slot = slot := by
  cases item with
  | flag s => cases h
  | value other t =>
    simp only [Item.text?, Option.ite_none_right_eq_some] at h
    exact h.1

theorem textOf_of_count {slot : Slot} (h : (items.map Item.slot).count slot = 0) :
    textOf slot items = none := by
  rw [textOf, List.findSome?_eq_none_iff]
  intro item hitem
  cases htext : item.text? slot with
  | none => rfl
  | some text =>
    exact absurd (slot_of_text htext ▸ List.mem_map_of_mem hitem) (List.count_eq_zero.1 h)

theorem Askable.of_append {later : List Item} (h : Askable (items ++ later)) : Askable items where
  once slot hslot := by
    have hle := h.once slot hslot
    rw [List.map_append, List.count_append] at hle
    omega
  fits item hitem := h.fits item (List.mem_append_left later hitem)

theorem Once.of_cons (h : Once (item :: items)) : Once items := by
  intro slot hslot
  exact Nat.le_trans ((List.sublist_cons_self _ _).count_le slot) (h slot hslot)

theorem Once.textOf_eq_none (h : Once (item :: items)) {slot : Slot}
    (hslot : slot ≠ .switch .verbose) {text : String} (htext : item.text? slot = some text) :
    textOf slot items = none := by
  have hle := h slot hslot
  rw [List.map_cons, List.count_cons, slot_of_text htext, beq_self_eq_true, if_pos rfl] at hle
  exact textOf_of_count (by omega)

def Options.adding (o : Options) (item : Item) : Options where
  format := (item.text? (.switch .format)).elim o.format Format.ofName?
  label := (item.text? (.switch .label)).elim o.label some
  noResolve := o.noResolve || item = .flag .noResolve
  resolveTimeout := (item.text? (.switch .resolveTimeout)).elim o.resolveTimeout fun text =>
    (Time.Span.parse text.toList).toOption
  config := (item.text? (.switch .config)).elim o.config some
  output := (item.text? (.switch .output)).elim o.output some
  noMarker := o.noMarker || item = .flag .noMarker
  failFast := o.failFast || item = .flag .failFast
  maxLineLength := (item.text? (.switch .maxLineLength)).elim o.maxLineLength fun text =>
    (readCount text.toList).toOption.getD ({} : Feed.Rules).maxLineLength
  stats := o.stats || item = .flag .stats
  verbosity := o.verbosity + if item = .flag .verbose then 1 else 0
  input := (item.text? .input).elim o.input some

theorem setSwitch_eq (s : Switch) (o : Options) : setSwitch s o = o.adding (.flag s) := by
  cases s <;> simp [Options.adding, setSwitch, Item.text?]

theorem fits_of_setValue {slot : Slot} {text : String} (h : setValue slot text o = .ok o') :
    (Item.value slot text).Fits := by
  unfold setValue at h
  split at h
  all_goals try split at h
  all_goals simp_all [Item.Fits, Except.toOption]

theorem setValue_of_fits {slot : Slot} {text : String} (h : (Item.value slot text).Fits) :
    setValue slot text o = .ok (o.adding (.value slot text)) := by
  unfold setValue
  split
  all_goals try split
  all_goals simp_all [Item.Fits, Options.adding, Item.text?, Except.toOption]

theorem adding_of_setValue {slot : Slot} {text : String} (h : setValue slot text o = .ok o') :
    o' = o.adding (.value slot text) :=
  Except.ok.inj (h.symm.trans (setValue_of_fits (fits_of_setValue h)))

theorem Once.foldl_text {β : Type} (once : Once items) {slot : Slot}
    (hslot : slot ≠ .switch .verbose) {field : Options → β} {read : String → β}
    (step : ∀ o item, field (Options.adding o item) = (item.text? slot).elim (field o) read) :
    field (items.foldl Options.adding o) = (textOf slot items).elim (field o) read := by
  induction items generalizing o with
  | nil => rfl
  | cons item items ih =>
    rw [List.foldl_cons, ih once.of_cons, step, textOf_cons]
    cases htext : item.text? slot with
    | none => rfl
    | some text =>
      rw [once.textOf_eq_none hslot htext]
      rfl

theorem foldl_flag {s : Switch} {field : Options → Bool}
    (step : ∀ o item, field (Options.adding o item) = (field o || decide (item = .flag s))) :
    field (items.foldl Options.adding o) = (field o || decide (.flag s ∈ items)) := by
  induction items generalizing o with
  | nil => simp
  | cons item items ih =>
    rw [List.foldl_cons, ih, step, Bool.or_assoc]
    simp [eq_comm]

theorem foldl_verbosity :
    (items.foldl Options.adding o).verbosity = o.verbosity + items.count (.flag .verbose) := by
  induction items generalizing o with
  | nil => rfl
  | cons item items ih =>
    rw [List.foldl_cons, ih, List.count_cons]
    simp only [Options.adding, beq_iff_eq]
    omega

attribute [ext] Options

theorem Once.foldl_adding (once : Once items) :
    items.foldl Options.adding {} = .ofItems items := by
  have given {β : Type} {slot : Slot} (hslot : slot ≠ .switch .verbose)
      {field : Options → Option β} {read : String → Option β} (start : field {} = none)
      (step : ∀ o item, field (Options.adding o item) = (item.text? slot).elim (field o) read) :
      field (items.foldl Options.adding {}) = (textOf slot items).bind read := by
    rw [once.foldl_text hslot step, start]
    cases textOf slot items <;> rfl
  -- Every field reads a slot of its own, so that the fold is taken apart field by field.
  ext1
  case format => exact given (by decide) rfl fun _ _ => rfl
  case label => exact (given (by decide) rfl fun _ _ => rfl).trans (Option.bind_fun_some _)
  case noResolve => exact foldl_flag fun _ _ => rfl
  case resolveTimeout => exact given (by decide) rfl fun _ _ => rfl
  case config => exact (given (by decide) rfl fun _ _ => rfl).trans (Option.bind_fun_some _)
  case output => exact (given (by decide) rfl fun _ _ => rfl).trans (Option.bind_fun_some _)
  case noMarker => exact foldl_flag fun _ _ => rfl
  case failFast => exact foldl_flag fun _ _ => rfl
  case maxLineLength =>
    have hslot : Slot.switch .maxLineLength ≠ .switch .verbose := by decide
    refine (once.foldl_text hslot fun _ _ => rfl).trans ?_
    rw [Options.ofItems]
    cases textOf (.switch .maxLineLength) items <;> rfl
  case stats => exact foldl_flag fun _ _ => rfl
  case verbosity => exact foldl_verbosity.trans (Nat.zero_add _)
  case input => exact (given (by decide) rfl fun _ _ => rfl).trans (Option.bind_fun_some _)

end

end FlowLines.CommandLine
