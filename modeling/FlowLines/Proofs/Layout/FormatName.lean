import FlowLines.Layout.Format
import FlowLines.Proofs.Text.Lowercase

/-! Names of formats in any case.  Though all letters are lowered, it is the case of ASCII letters
only that does not count. -/

namespace FlowLines.Format

open FlowLines.Text (Lowers SameButCase Unmistakable lowers_lowercase sameButCase_iff)

theorem unmistakable_name (f : Format) : ∀ d ∈ f.name.toList, Unmistakable d := by
  have hall : f.name.toList.all (Unmistakable ·) := by cases f <;> decide
  exact fun d hd => of_decide_eq_true (List.all_eq_true.1 hall d hd)

theorem lower_name (f : Format) : ∀ d ∈ f.name.toList, d.toNat < 128 ∧ d.toLower = d := by
  have hall : f.name.toList.all fun d => d.toNat < 128 ∧ d.toLower = d := by cases f <;> decide
  exact fun d hd => of_decide_eq_true (List.all_eq_true.1 hall d hd)

theorem find?_name_iff {t : List Char} {f : Format} :
    all.find? (fun f => f.name.toList = t) = some f ↔ t = f.name.toList := by
  constructor
  · intro h
    have hname := List.find?_some h
    exact (of_decide_eq_true hname).symm
  · rintro rfl
    cases f <;> decide +kernel

theorem ofNameIgnoringAsciiCase?_iff {s : String} {f : Format} :
    ofNameIgnoringAsciiCase? s = some f ↔ s.toList.map Char.toLower = f.name.toList :=
  find?_name_iff

theorem parse_eq_ok_iff {s : String} {f : Format} :
    parse s = .ok f ↔ Text.lowercase s.toList = f.name.toList := by
  rw [← find?_name_iff, parse]
  split <;> simp [*]

theorem eq_unknown_of_parse {s : String} {fault : Fault} (h : parse s = .error fault) :
    fault = .unknown s := by
  unfold parse at h
  split at h
  · cases h
  · exact (Except.error.inj h).symm

/-- A text is read as a format exactly if it is its name but for the case of ASCII letters, however
the sigmas of the text are lowered; any other text is told as it is. -/
theorem parse_same_but_case (s : String) :
    (∀ f, parse s = .ok f ↔ SameButCase s.toList f.name.toList) ∧
    (∀ f, parse s = .ok f ↔ ofNameIgnoringAsciiCase? s = some f) ∧
    (∀ t, Lowers s.toList t → ∀ f, parse s = .ok f ↔ t = f.name.toList) ∧
    ∀ fault, parse s = .error fault →
      fault = .unknown s ∧ fault.message = "Unknown output format: " ++ s := by
  have lowered (f : Format) {t : List Char} (h : Lowers s.toList t) :
      t = f.name.toList ↔ s.toList.map Char.toLower = f.name.toList :=
    h.eq_iff (unmistakable_name f)
  have parsed (f : Format) : parse s = .ok f ↔ s.toList.map Char.toLower = f.name.toList :=
    parse_eq_ok_iff.trans (lowered f (lowers_lowercase s.toList))
  refine ⟨fun f => ?_, fun f => ?_, fun t h f => ?_, fun fault h => ?_⟩
  · rw [parsed, sameButCase_iff (lower_name f)]
  · rw [parsed, ofNameIgnoringAsciiCase?_iff]
  · rw [parsed, lowered f h]
  · obtain rfl := eq_unknown_of_parse h
    exact ⟨rfl, rfl⟩

theorem parse_same_but_case_sigma :
    parse "JsonL" = .ok .jsonLines ∧ Lowers "XMLΣ".toList "xmlς".toList ∧
      ∀ f, parse "XMLΣ" ≠ .ok f := by
  have lowers : Lowers "XMLΣ".toList "xmlς".toList :=
    .cons 'X' (.cons 'M' (.cons 'L' (.final .nil)))
  obtain ⟨-, ignoring, -, -⟩ := parse_same_but_case "JsonL"
  obtain ⟨-, -, lowered, -⟩ := parse_same_but_case "XMLΣ"
  refine ⟨(ignoring _).2 (by decide), lowers, fun f h => ?_⟩
  have hname := (lowered _ lowers f).1 h
  cases f <;> exact absurd hname (by decide)

end FlowLines.Format
