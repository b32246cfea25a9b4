import FlowLines.Proofs.Layout.Outside
import FlowLines.Proofs.Text.OneLine

/-! Every format lays a flow out on one line. -/

namespace FlowLines

open FlowLines.Text

/-- Line breaks have escapes in every format but the plain line. -/
theorem Format.isBreak_keeps {format : Format} (h : format ≠ line) (c : Char) :
    (isBreak c && format.keeps c) = false := by
  cases format with
  | line => exact absurd rfl h
  | logfmt | xml => exact Bool.and_not_self _
  | jsonLines =>
    have hlow : isBreak c → ¬ 0x20 ≤ c.toNat := by
      intro hbreak
      rw [isBreak, Bool.or_eq_true, decide_eq_true_eq, decide_eq_true_eq] at hbreak
      rcases hbreak with rfl | rfl <;> decide
    cases hbreak : isBreak c with
    | false => rfl
    | true => exact decide_eq_false (hlow hbreak)

theorem Format.filter_isBreak {format : Format} (h : format ≠ line) (s : List Char) :
    (s.filter fun c => isBreak c && format.keeps c) = [] := by
  rw [List.filter_eq_nil_iff]
  intro c _
  rw [format.isBreak_keeps h]
  exact Bool.false_ne_true

theorem Json.oneLine_writeObject {o : Object} (h : ∀ m ∈ o, Visible m.1.toList) :
    OneLine (writeObject o) := by
  rw [oneLine_iff, filter_writeObject unseen_isBreak h]
  exact Format.filter_isBreak (by decide) _

theorem Layout.Logfmt.oneLine_writeFields {fields : List (String × String)}
    (h : ∀ f ∈ fields, Visible f.1.toList) : OneLine (writeFields fields) := by
  rw [oneLine_iff, filter_writeFields unseen_isBreak h]
  exact Format.filter_isBreak (by decide) _

namespace Format

open FlowLines.Layout

theorem oneLine_layout (format : Format) {label : String}
    (hlabel : format = line → OneLine label.toList) {shown : Shown}
    (hsource : OneLine shown.source.toList) (hdest : OneLine shown.dest.toList) :
    ∃ text, (format.layout label).entry shown = .ok text ∧ OneLine text.toList := by
  obtain ⟨text, hlaid, hfilter⟩ := format.filter_entry unseen_isBreak label shown
  refine ⟨text, hlaid, oneLine_iff.2 (hfilter.trans ?_)⟩
  by_cases hline : format = line
  · subst hline
    have houtside : OneLine (outside label shown line) := by
      rw [outside, oneLine_append, oneLine_append]
      exact ⟨hlabel rfl, hsource, hdest⟩
    simp only [keeps, Bool.and_true]
    exact oneLine_iff.1 houtside
  · exact filter_isBreak hline _

theorem oneLine_layout_map (format : Format) {label : String}
    (hlabel : format = line → OneLine label.toList) {flows : List Shown}
    (h : ∀ s ∈ flows, OneLine s.source.toList ∧ OneLine s.dest.toList) :
    ∃ texts : List String, flows.map (format.layout label).entry = texts.map .ok ∧
      ∀ text ∈ texts, OneLine text.toList := by
  induction flows with
  | nil => exact ⟨[], rfl, by simp⟩
  | cons s flows ih =>
    obtain ⟨hsource, hdest⟩ := h s List.mem_cons_self
    obtain ⟨text, hlaid, hone⟩ := format.oneLine_layout hlabel hsource hdest
    obtain ⟨texts, hall, hones⟩ := ih fun t ht => h t (List.mem_cons_of_mem s ht)
    exact ⟨text :: texts, by rw [List.map_cons, List.map_cons, hlaid, hall],
      List.forall_mem_cons.2 ⟨hone, hones⟩⟩

end Format

end FlowLines
