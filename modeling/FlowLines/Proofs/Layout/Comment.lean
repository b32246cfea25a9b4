import FlowLines.Proofs.Layout.Xml
import FlowLines.Proofs.Reporter.LineFeeds

/-! The comment that holds a marker.  Pairs of dashes are parted, but what is put for a pair ends in
a dash itself, so that a third one is left beside it. -/

namespace FlowLines.Layout.Xml

/-- What stands in a comment has no two dashes together, and does not end in one. -/
def IsComment (text : List Char) : Prop :=
  ∃ content, text = "<!--".toList ++ (content ++ "-->".toList) ∧
    ¬ ['-', '-'] <:+: content ++ ['-']

/-- Comments and the elements of flows, each with a line feed behind it. -/
inductive IsDocument : List Char → Prop
  | nil : IsDocument []
  | comment {text rest} : IsComment text → IsDocument rest → IsDocument (text ++ '\n' :: rest)
  | flow {text pairs rest} :
    IsFlow text pairs → IsDocument rest → IsDocument (text ++ '\n' :: rest)

/-- The mark that ends a comment stands before the end of the text. -/
def EndsEarly (text : List Char) : Prop :=
  ∃ before after, text = before ++ ("-->".toList ++ after) ∧ after ≠ []

/-- Three dashes, or a greater odd number, with no dash before them and a `>` behind. -/
def HasEnd (marker : List Char) : Prop :=
  ∃ before n after, marker = before ++ (List.replicate (2 * n + 3) '-' ++ '>' :: after) ∧
    before.getLast? ≠ some '-'

theorem dash_prefix_partDashes (s : List Char) : ['-'] <+: partDashes s ↔ ['-'] <+: s := by
  fun_cases partDashes s <;> simp

theorem end_prefix_partDashes (s : List Char) : ['-', '>'] <+: partDashes s ↔ ['-', '>'] <+: s := by
  fun_cases partDashes s with
  | case1 r => simp
  | case2 c r hc =>
    have hr : ['>'] <+: partDashes r ↔ ['>'] <+: r := by fun_cases partDashes r <;> simp
    rw [List.cons_prefix_cons, List.cons_prefix_cons, hr]
  | case3 => simp

theorem not_dashes_prefix {c : Char} {r : List Char} (hc : ∀ t, c = '-' → r = '-' :: t → False) :
    ¬ ['-', '-'] <+: c :: r ∧ ¬ ['-', '-'] <+: c :: partDashes r := by
  have hone : ¬ ['-', '-'] <+: c :: r := by
    rintro ⟨t, ht⟩
    obtain ⟨rfl, rfl⟩ := List.cons.inj ht
    exact hc t rfl rfl
  refine ⟨hone, ?_⟩
  rwa [List.cons_prefix_cons, dash_prefix_partDashes, ← List.cons_prefix_cons]

theorem dashes_infix_partDashes (s : List Char) :
    ['-', '-'] <:+: partDashes s ↔ ['-', '-', '-'] <:+: s := by
  fun_induction partDashes s with
  | case1 r ih =>
    have htwo : ['-', '-'] <+: r → ['-'] <+: r := fun h =>
      List.IsPrefix.trans (by simp) h
    simp [List.infix_cons_iff, dash_prefix_partDashes, ih]
    tauto
  | case2 c r hc ih =>
    obtain ⟨hone, hparted⟩ := not_dashes_prefix hc
    have hthree : ¬ ['-', '-', '-'] <+: c :: r := fun h =>
      hone (List.IsPrefix.trans (by simp) h)
    rw [List.infix_cons_iff, List.infix_cons_iff, ih]
    simp only [hthree, hparted, false_or]
  | case3 => simp

theorem not_hasEnd_nil : ¬ HasEnd [] := by
  rintro ⟨before, n, after, h, -⟩
  simpa using congrArg List.length h

theorem hasEnd_dashes (r : List Char) :
    HasEnd ('-' :: '-' :: r) ↔ ['-', '>'] <+: r ∨ HasEnd r := by
  constructor
  · rintro ⟨- | ⟨b, - | ⟨b', before⟩⟩, n, after, h, hlast⟩
    · cases n with
      | zero =>
        obtain rfl : r = '-' :: '>' :: after := by simpa using h
        exact .inl ⟨after, rfl⟩
      | succ n =>
        refine .inr ⟨[], n, after, ?_, by simp⟩
        simpa [List.replicate_succ, Nat.mul_add] using h
    · obtain ⟨rfl, -⟩ := List.cons.inj h
      exact absurd rfl hlast
    · simp only [List.cons_append, List.cons.injEq] at h
      obtain ⟨rfl, rfl, rfl⟩ := h
      refine .inr ⟨before, n, after, rfl, fun hbefore => hlast ?_⟩
      simp [List.getLast?_cons, hbefore]
  · rintro (⟨after, rfl⟩ | ⟨before, n, after, rfl, hlast⟩)
    · exact ⟨[], 0, after, rfl, by simp⟩
    · cases before with
      | nil => exact ⟨[], n + 1, after, by simp [List.replicate_succ, Nat.mul_add], by simp⟩
      | cons b before =>
        exact ⟨'-' :: '-' :: b :: before, n, after, rfl, by simpa using hlast⟩

theorem hasEnd_cons {c : Char} {r : List Char} (hc : ¬ ['-', '-'] <+: c :: r) :
    HasEnd (c :: r) ↔ HasEnd r := by
  constructor
  · rintro ⟨- | ⟨b, before⟩, n, after, h, hlast⟩
    · exact absurd ⟨_, h.symm⟩ hc
    · obtain ⟨rfl, rfl⟩ := List.cons.inj h
      refine ⟨before, n, after, rfl, fun hbefore => hlast ?_⟩
      simp [List.getLast?_cons, hbefore]
  · rintro ⟨before, n, after, rfl, hlast⟩
    refine ⟨c :: before, n, after, rfl, ?_⟩
    cases before with
    | nil =>
      rintro h
      obtain rfl : c = '-' := by simpa using h
      exact hc ⟨_, rfl⟩
    | cons b before => simpa using hlast

theorem end_infix_partDashes (s : List Char) : "-->".toList <:+: partDashes s ↔ HasEnd s := by
  change ['-', '-', '>'] <:+: partDashes s ↔ HasEnd s
  fun_induction partDashes s with
  | case1 r ih =>
    rw [hasEnd_dashes, ← ih, ← end_prefix_partDashes]
    simp [List.infix_cons_iff]
  | case2 c r hc ih =>
    obtain ⟨hone, htwo⟩ := not_dashes_prefix hc
    have hparted : ¬ ['-', '-', '>'] <+: c :: partDashes r := fun h =>
      htwo (List.IsPrefix.trans (by simp) h)
    rw [hasEnd_cons hone, List.infix_cons_iff, ih]
    simp only [hparted, false_or]
  | case3 => simp [not_hasEnd_nil]

theorem endsEarly_cons {c : Char} {s : List Char} (h : ¬ "-->".toList <+: c :: s) :
    EndsEarly (c :: s) ↔ EndsEarly s := by
  constructor
  · rintro ⟨- | ⟨b, before⟩, after, heq, hne⟩
    · exact absurd ⟨after, heq.symm⟩ h
    · exact ⟨before, after, (List.cons.inj heq).2, hne⟩
  · rintro ⟨before, after, rfl, hne⟩
    exact ⟨c :: before, after, rfl, hne⟩

theorem endsEarly_append (body : List Char) :
    EndsEarly (body ++ " -->".toList) ↔ "-->".toList <:+: body := by
  induction body with
  | nil =>
    have hend : ¬ EndsEarly "-->".toList := by
      rintro ⟨before, after, heq, hne⟩
      have hlength := congrArg List.length heq
      have := List.length_pos_iff.2 hne
      simp only [List.length_append] at hlength
      omega
    rw [List.nil_append, show " -->".toList = ' ' :: "-->".toList from rfl,
      endsEarly_cons (by decide)]
    exact iff_of_false hend (by decide)
  | cons c body ih =>
    by_cases hbegins : "-->".toList <+: c :: body
    · obtain ⟨after, hafter⟩ := hbegins
      refine iff_of_true ⟨[], after ++ " -->".toList, ?_, by simp⟩
        (List.IsPrefix.isInfix ⟨after, hafter⟩)
      rw [← hafter, List.append_assoc, List.nil_append]
    · have hacross : ¬ "-->".toList <+: c :: (body ++ " -->".toList) := by
        rcases body with - | ⟨d, - | ⟨e, body⟩⟩
        · simp
        · simp
        · simpa using hbegins
      rw [List.cons_append, endsEarly_cons hacross, ih, List.infix_cons_iff]
      simp only [hbegins, false_or]

theorem comment_eq (s : List Char) : comment s =
    '<' :: '!' :: '-' :: '-' :: ' ' :: (partDashes s ++ " -->".toList) := rfl

theorem endsEarly_comment (s : List Char) : EndsEarly (comment s) ↔ HasEnd s := by
  rw [← end_infix_partDashes, ← endsEarly_append, comment_eq]
  iterate 5 rw [endsEarly_cons (by simp)]

theorem dashes_infix_append (body : List Char) :
    ['-', '-'] <:+: body ++ [' ', '-'] ↔ ['-', '-'] <:+: body := by
  induction body with
  | nil => decide
  | cons c body ih =>
    have hprefix : ['-', '-'] <+: c :: (body ++ [' ', '-']) ↔ ['-', '-'] <+: c :: body := by
      cases body <;> simp
    rw [List.cons_append, List.infix_cons_iff, List.infix_cons_iff, hprefix, ih]

theorem isComment_comment (s : List Char) : IsComment (comment s) ↔ ¬ ['-', '-', '-'] <:+: s := by
  have hcontent : ['-', '-'] <:+: ' ' :: (partDashes s ++ [' ', '-']) ↔ ['-', '-', '-'] <:+: s := by
    rw [List.infix_cons_iff, dashes_infix_append, dashes_infix_partDashes]
    simp
  have heq : comment s = "<!--".toList ++ ((' ' :: (partDashes s ++ [' '])) ++ "-->".toList) := by
    rw [comment_eq, List.cons_append, List.append_assoc]
    rfl
  rw [← hcontent]
  constructor
  · rintro ⟨content, htext, hclean⟩
    have hsame := List.append_cancel_right (List.append_cancel_left (heq.symm.trans htext))
    rw [← hsame] at hclean
    simpa using hclean
  · intro hclean
    exact ⟨_, heq, by simpa using hclean⟩

theorem isDocument_flows {texts : List String} {rest : List Char}
    (h : ∀ text ∈ texts, ∃ pairs, IsFlow text.toList pairs) (hrest : IsDocument rest) :
    IsDocument (texts.flatMap (fun text => text.toList ++ ['\n']) ++ rest) := by
  induction texts with
  | nil => exact hrest
  | cons text texts ih =>
    obtain ⟨⟨pairs, hflow⟩, htexts⟩ := List.forall_mem_cons.1 h
    rw [List.flatMap_cons, List.append_assoc, List.append_assoc]
    exact .flow hflow (ih htexts)

end FlowLines.Layout.Xml

namespace FlowLines.Layout

open FlowLines.Flow (Record)
open FlowLines.Layout.Xml

theorem isFlow_texts {σ : Type} (resolver : Host.Resolver σ) (marker : Option String)
    (flows : List Flow.Entry) (memory : σ) :
    ∀ text ∈ Reporter.texts ⟨xml, resolver, marker⟩ flows memory,
      ∃ pairs, IsFlow text.toList pairs := by
  intro text htext
  obtain ⟨shown, -, hlaid⟩ := List.mem_filterMap.1 htext
  obtain rfl : String.ofList (Xml.entry shown) = text := Option.some.inj hlaid
  rw [String.toList_ofList]
  exact ⟨_, isFlow_entry shown⟩

/-- The marker stands in a comment.  Two dashes are left together in it exactly if the marker has
three, and it is no comment then; it ends before its end exactly if a `>` stands behind an odd
number of them.  With any other marker, or with none, a report is a document. -/
theorem xml_marker_comment (marker : Option String) :
    (∀ m ∈ marker, ∃ body,
      (xml.marker m).toList = "<!-- ".toList ++ (body ++ " -->".toList) ∧
      (['-', '-'] <:+: body ↔ ['-', '-', '-'] <:+: m.toList) ∧
      (IsComment (xml.marker m).toList ↔ ¬ ['-', '-', '-'] <:+: m.toList) ∧
      (EndsEarly (xml.marker m).toList ↔ HasEnd m.toList)) ∧
    ((∀ m ∈ marker, ¬ ['-', '-', '-'] <:+: m.toList) →
      ∀ {σ : Type} (resolver : Host.Resolver σ) (hasConfig : Bool) (records : List Record)
        (d : Desk σ), d.sink.Accepts →
        let r : Reporter σ := ⟨xml, resolver, marker⟩
        ∃ d₀ summaries d' text, r.start hasConfig d = (.ok (), d₀) ∧
          r.writeEach records d₀ = (.ok summaries, d') ∧
          d'.sink.stored.toList = d.sink.stored.toList ++ Text.Utf8.encode text ∧
          IsDocument text) := by
  constructor
  · intro m _
    have hmarker : (xml.marker m).toList = comment m.toList := String.toList_ofList
    rw [hmarker]
    exact ⟨partDashes m.toList, List.append_assoc _ _ _, dashes_infix_partDashes _,
      isComment_comment _, endsEarly_comment _⟩
  · intro hclean σ resolver hasConfig records d accepts r
    obtain ⟨d₀, hstart, haccepts, -, hopening⟩ := r.start_opening accepts hasConfig
    obtain ⟨summaries, d', hwrite, -, sent⟩ := r.writeEach_sent haccepts records
    let texts := r.texts (records.flatMap (·.flows)) d₀.memory
    have htexts : ∀ text ∈ texts, ∃ pairs, IsFlow text.toList pairs :=
      isFlow_texts resolver marker _ _
    have hflows : IsDocument (texts.flatMap fun text => text.toList ++ ['\n']) := by
      simpa using isDocument_flows htexts .nil
    have hbytes : r.bytes (records.flatMap (·.flows)) d₀.memory =
        Text.Utf8.encode (texts.flatMap fun text => text.toList ++ ['\n']) :=
      flatMap_lineBytes_eq_encode texts
    cases marker with
    | none =>
      refine ⟨d₀, summaries, d', _, hstart, hwrite, ?_, hflows⟩
      rw [sent.stored, hopening, hbytes]
      simp [r, Reporter.opening]
    | some m =>
      have hcomment := (isComment_comment m.toList).2 (hclean m rfl)
      refine ⟨d₀, summaries, d', _, hstart, hwrite, ?_, .comment hcomment hflows⟩
      rw [sent.stored, hopening, hbytes, List.append_assoc]
      simp [r, Reporter.opening, lineBytes, xml, Text.Utf8.encode]

theorem xml_marker_comment_pairs :
    let marker := "a -- b->"
    let resolver : Host.Resolver Unit := Host.Resolver.raw
    let r : Reporter Unit := ⟨xml, resolver, some marker⟩
    let records : List Record := [⟨[{ sourceHost := "-->" }]⟩]
    let d : Desk Unit := { memory := () }
    d.sink.Accepts ∧ (∀ m ∈ some marker, ¬ ['-', '-', '-'] <:+: m.toList) ∧
    ∃ d₀ summaries d' text, r.start true d = (.ok (), d₀) ∧
      r.writeEach records d₀ = (.ok summaries, d') ∧
      d'.sink.stored.toList = Text.Utf8.encode text ∧ IsDocument text := by
  intro marker resolver r records d
  have hclean : ∀ m ∈ some marker, ¬ ['-', '-', '-'] <:+: m.toList := by
    rintro m hm
    obtain rfl : marker = m := Option.some.inj hm
    decide +kernel
  obtain ⟨-, hreport⟩ := xml_marker_comment (some marker)
  obtain ⟨d₀, summaries, d', text, hstart, hwrite, hstored, hdocument⟩ :=
    hreport hclean resolver true records d Sink.accepts_default
  exact ⟨Sink.accepts_default, hclean, d₀, summaries, d', text, hstart, hwrite, hstored, hdocument⟩

/-- Three dashes and a `>`: two dashes are left in what should be a comment, and it ends there. -/
theorem xml_marker_open :
    let marker := "--->"
    ∃ body, (xml.marker marker).toList = "<!-- ".toList ++ (body ++ " -->".toList) ∧
      ['-', '-'] <:+: body ∧ ¬ IsComment (xml.marker marker).toList ∧
      (xml.marker marker).toList = "<!-- - -->".toList ++ " -->".toList := by
  intro marker
  have hthree : ['-', '-', '-'] <:+: marker.toList := by decide
  have hmarker : (xml.marker marker).toList = comment marker.toList := String.toList_ofList
  rw [hmarker]
  exact ⟨partDashes marker.toList, by decide, (dashes_infix_partDashes _).2 hthree,
    fun h => (isComment_comment _).1 h hthree, by decide⟩

end FlowLines.Layout
