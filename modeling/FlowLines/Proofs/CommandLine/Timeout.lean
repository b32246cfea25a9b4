import FlowLines.Proofs.CommandLine.Accepted
import FlowLines.Proofs.Time.Span
import FlowLines.Settings.Decode

/-! The time-out of the command line beside that of a settings file.  Both take the same texts for
the same lengths of time, but for a zero with blanks around it, which only a file can give. -/

namespace FlowLines.CommandLine

def timeoutArguments (text : String) : List (List String) :=
  let name := "--" ++ Switch.resolveTimeout.long
  [[name ++ ("=" ++ text)], [name, text]]

def timeout? (arguments : List String) : Option (Option Time.Span) :=
  (Options.parse arguments).toOption.map (·.resolveTimeout)

/-- Arguments are accepted with the text exactly if a settings file is, for the same time-out. -/
def TakenAlike (text : String) : Prop :=
  ∀ arguments ∈ timeoutArguments text,
    timeout? arguments = (Settings.readSpan text.toList).toOption.map some

section

variable {text : String} {span : Time.Span} {arguments : List String}

theorem timeout?_of_spells
    (spells : Spells .anything arguments [.value (.switch .resolveTimeout) text]) :
    timeout? arguments = (Time.Span.parse text.toList).toOption.map some := by
  let item : Item := .value (.switch .resolveTimeout) text
  unfold timeout?
  cases hspan : Time.Span.parse text.toList with
  | ok span =>
    have once : Once [item] := fun _ _ => List.count_le_length
    have fits : item.Fits := by simp [item, Item.Fits, hspan]
    have hparse : Options.parse arguments = .ok (.ofItems [item]) :=
      parse_eq_ok_iff.2 ⟨_, spells, ⟨once, by simpa using fits⟩, rfl⟩
    have htext : textOf (.switch .resolveTimeout) [item] = some text := rfl
    rw [hparse, toOption_ok, Option.map_some, Options.ofItems, htext, Option.bind_some, hspan]
    rfl
  | error fault =>
    cases hparse : Options.parse arguments with
    | error usage => rfl
    | ok o =>
      obtain ⟨items, hitems, ⟨-, fits⟩, -⟩ := parse_eq_ok_iff.1 hparse
      obtain rfl := hitems.unique spells
      have hfits : item.Fits := fits item List.mem_cons_self
      simp [item, Item.Fits, hspan] at hfits

theorem spells_attached (text : String) :
    Spells .anything ["--" ++ Switch.resolveTimeout.long ++ ("=" ++ text)]
      [.value (.switch .resolveTimeout) text] :=
  .cons (.long (.attached rfl)) (.nil (by simp))

theorem says_awaiting : Says .anything ("--" ++ Switch.resolveTimeout.long) []
    (.value .resolveTimeout) := by
  have h : Says .anything ("--" ++ Switch.resolveTimeout.long ++ "") [] (.value .resolveTimeout) :=
    .long (.awaited rfl)
  rwa [String.append_empty] at h

theorem spells_awaited (plain : IsPlain text) :
    Spells .anything ["--" ++ Switch.resolveTimeout.long, text]
      [.value (.switch .resolveTimeout) text] :=
  .cons says_awaiting (.cons (.awaited plain) (.nil (by simp)))

theorem isPlain_of_spells {items : List Item}
    (spells : Spells .anything ["--" ++ Switch.resolveTimeout.long, text] items) :
    IsPlain text := by
  cases spells with
  | cons said hrest =>
    obtain ⟨-, rfl⟩ := said.unique says_awaiting rfl
    cases hrest with
    | cons said _ =>
      cases said with
      | awaited plain => exact plain

/-- A text that begins a switch is no length of time. -/
theorem isPlain_of_parse (h : Time.Span.parse text.toList = .ok span) : IsPlain text := by
  refine .inr fun hdash => ?_
  obtain ⟨rest, hrest⟩ := List.head?_eq_some_iff.1 hdash
  rw [hrest] at h
  cases h

theorem timeout?_awaited : timeout? ["--" ++ Switch.resolveTimeout.long, text] =
    (Time.Span.parse text.toList).toOption.map some := by
  by_cases plain : IsPlain text
  · exact timeout?_of_spells (spells_awaited plain)
  · have hspan : (Time.Span.parse text.toList).toOption = none := by
      cases h : Time.Span.parse text.toList with
      | error fault => rfl
      | ok span => exact absurd (isPlain_of_parse h) plain
    have hparse : (Options.parse ["--" ++ Switch.resolveTimeout.long, text]).toOption = none := by
      cases h : Options.parse ["--" ++ Switch.resolveTimeout.long, text] with
      | error usage => rfl
      | ok o =>
        obtain ⟨_, hitems, -, -⟩ := parse_eq_ok_iff.1 h
        exact absurd (isPlain_of_spells hitems) plain
    rw [timeout?, hparse, hspan]
    rfl

theorem timeout?_eq (h : arguments ∈ timeoutArguments text) :
    timeout? arguments = (Time.Span.parse text.toList).toOption.map some := by
  simp only [timeoutArguments, List.mem_cons, List.not_mem_nil, or_false] at h
  rcases h with rfl | rfl
  · exact timeout?_of_spells (spells_attached text)
  · exact timeout?_awaited

theorem toOption_readSpan (text : List Char) :
    (Settings.readSpan text).toOption = (Time.Span.parse (Text.trim text)).toOption := by
  rw [Settings.readSpan]
  cases Time.Span.parse (Text.trim text) <;> rfl

theorem answers_of_padded (padded : Text.trim text.toList = ['0'] ∧ text.toList ≠ ['0']) :
    Settings.readSpan text.toList = .ok {} ∧
      Time.Span.parse text.toList = .error (.unknownUnit [] 0) ∧
      ∀ arguments ∈ timeoutArguments text, timeout? arguments = none := by
  have hparse := Time.Span.parse_padded_zero padded.1 padded.2
  refine ⟨?_, hparse, fun arguments harguments => ?_⟩
  · rw [Settings.readSpan, padded.1]
    rfl
  · rw [timeout?_eq harguments, hparse]
    rfl

end

/-- A file and the command line take a text alike, unless it is a zero with blanks around it.  That
is no time at all in a file, while on the command line it lacks its unit. -/
theorem takenAlike_iff (text : String) :
    (TakenAlike text ↔ (Text.trim text.toList = ['0'] → text.toList = ['0'])) ∧
    (Text.trim text.toList = ['0'] ∧ text.toList ≠ ['0'] →
      Settings.readSpan text.toList = .ok {} ∧
      Time.Span.parse text.toList = .error (.unknownUnit [] 0) ∧
      ∀ arguments ∈ timeoutArguments text, timeout? arguments = none) := by
  refine ⟨⟨fun alike htrim => ?_, fun h arguments harguments => ?_⟩, answers_of_padded⟩
  · by_contra hne
    obtain ⟨hfile, -, hrefused⟩ := answers_of_padded ⟨htrim, hne⟩
    have htaken := alike _ List.mem_cons_self
    rw [hrefused _ List.mem_cons_self, hfile] at htaken
    cases htaken
  · rw [timeout?_eq harguments, toOption_readSpan, Time.Span.toOption_parse_trim h]

theorem takenAlike_blanks :
    let sum := " 1h 30m\n"
    let zero := "0\t"
    TakenAlike sum ∧ timeout? ["--resolve-timeout", sum] = some (some ⟨5400, 0⟩) ∧
      (Text.trim zero.toList = ['0'] ∧ zero.toList ≠ ['0']) ∧
      timeout? ["--resolve-timeout", zero] = none := by
  intro sum zero
  have hmem (text : String) : ["--resolve-timeout", text] ∈ timeoutArguments text :=
    List.mem_cons_of_mem _ List.mem_cons_self
  have hsum : TakenAlike sum := (takenAlike_iff sum).1.2 (by decide +kernel)
  have hzero : Text.trim zero.toList = ['0'] ∧ zero.toList ≠ ['0'] := by decide +kernel
  refine ⟨hsum, ?_, hzero, ((takenAlike_iff zero).2 hzero).2.2 _ (hmem zero)⟩
  rw [hsum _ (hmem sum)]
  decide +kernel

theorem timeout_zero_behind_blank :
    ¬ ∀ text, ∀ arguments ∈ timeoutArguments text, ∀ span,
      Settings.readSpan text.toList = .ok span ↔ timeout? arguments = some (some span) := by
  intro alike
  have hfile : Settings.readSpan " 0".toList = .ok {} := by decide +kernel
  have htaken := (alike " 0" _ List.mem_cons_self {}).1 hfile
  exact absurd htaken (by decide +kernel)

end FlowLines.CommandLine
