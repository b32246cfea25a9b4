import FlowLines.Proofs.Layout.Outside
import FlowLines.Proofs.Reporter.Limit

/-! Which characters of a report no XML document may hold, and from which texts they come. -/

namespace FlowLines.Layout.Xml

open FlowLines.Text (isControl reveal revealChar visible_controlEscape)

/-- The characters that a document may hold, `Char` in the grammar of XML 1.0. -/
def IsChar (c : Char) : Prop :=
  c ∈ ['\t', '\n', '\r'] ∨ 0x20 ≤ c.toNat ∧ c.toNat ≤ 0xD7FF ∨
    0xE000 ≤ c.toNat ∧ c.toNat ≤ 0xFFFD ∨ 0x10000 ≤ c.toNat ∧ c.toNat ≤ 0x10FFFF

instance (c : Char) : Decidable (IsChar c) := inferInstanceAs (Decidable (_ ∨ _))

/-- No document may hold these, and they are no controls. -/
def noncharacters : List Char := ['\ufffe', '\uffff']

def Legal (s : List Char) : Prop := ∀ c ∈ s, IsChar c

instance (s : List Char) : Decidable (Legal s) := List.decidableBAll IsChar s

def illegal (s : List Char) : List Char := s.filter (¬ IsChar ·)

theorem illegal_append (s t : List Char) : illegal (s ++ t) = illegal s ++ illegal t :=
  List.filter_append s t

theorem illegal_eq_nil_iff {s : List Char} : illegal s = [] ↔ Legal s := by
  simp [illegal, Legal]

theorem unseen_not_isChar : Text.Unseen (¬ IsChar ·) := by
  intro c hlow hhigh
  rw [decide_eq_false_iff_not, not_not, IsChar]
  omega

theorem not_isChar_iff {c : Char} (h : isControl c = false) : ¬ IsChar c ↔ c ∈ noncharacters := by
  have hvalid : c.toNat.isValidChar := c.valid
  have hlow : 0x20 ≤ c.toNat := by
    simp only [isControl, Bool.or_eq_false_iff, decide_eq_false_iff_not, Nat.not_lt] at h
    exact h.1
  have hnon : c ∈ noncharacters ↔ c.toNat = 0xFFFE ∨ c.toNat = 0xFFFF := by
    simp [noncharacters, ← Char.toNat_inj]
  have hmark : c ∉ ['\t', '\n', '\r'] := by
    intro hmem
    simp only [List.mem_cons, List.not_mem_nil, or_false] at hmem
    rcases hmem with rfl | rfl | rfl <;> exact absurd hlow (by decide)
  rw [hnon, IsChar]
  simp only [hmark, false_or]
  unfold Nat.isValidChar at hvalid
  omega

theorem illegal_revealChar (c : Char) :
    illegal (revealChar c) = [c].filter (· ∈ noncharacters) := by
  cases h : isControl c with
  | true =>
    have hnon : c ∉ noncharacters := by
      intro hmem
      simp only [noncharacters, List.mem_cons, List.not_mem_nil, or_false] at hmem
      rcases hmem with rfl | rfl <;> exact absurd h (by decide)
    rw [revealChar, if_pos h, illegal, unseen_not_isChar.filter_visible (visible_controlEscape c)]
    simp [hnon]
  | false =>
    rw [revealChar, if_neg (by simp [h])]
    exact List.filter_congr fun d hd => by
      rw [List.mem_singleton.1 hd, decide_eq_decide]
      exact not_isChar_iff h

theorem illegal_reveal (s : List Char) : illegal (reveal s) = s.filter (· ∈ noncharacters) := by
  rw [Text.reveal_eq_flatMap]
  exact Text.filter_flatMap_eq illegal_revealChar s

/-- The texts of a line that come from outside. -/
def free (s : Shown) : List Char :=
  s.source.toList ++ (s.dest.toList ++ (s.flow.nextHop.elim [] String.toList))

theorem illegal_entry (s : Shown) : illegal (entry s) = illegal (free s) := by
  have hkept := filter_fields (unseen_not_isChar.and Format.xml.keeps) s
  rw [illegal, filter_entry unseen_not_isChar, hkept]
  refine List.filter_congr fun c _ => ?_
  -- all that is not kept are line breaks, which are legal
  have hbreak : ¬ IsChar c → Format.xml.keeps c := by
    intro hchar
    have hmark : c ∉ ['\t', '\n', '\r'] := fun hmem => hchar (.inl hmem)
    simp only [List.mem_cons, List.not_mem_nil, or_false, not_or] at hmark
    simp [Format.keeps, Text.isBreak, hmark]
  cases h : decide (¬ IsChar c) with
  | true => rw [hbreak (of_decide_eq_true h), Bool.and_true]
  | false => exact Bool.false_and _

/-- Every `&` of a text begins a reference, and one to a character that a document may hold. -/
def Refers (s : List Char) : Prop :=
  ∀ t, '&' :: t <:+ s → ∃ r ∈ references, r.1 <+: '&' :: t ∧ IsChar r.2

theorem Refers.of_no_ampersand {s : List Char} (h : '&' ∉ s) : Refers s :=
  fun _ ht => absurd (ht.mem List.mem_cons_self) h

theorem Refers.append {s t : List Char} (hs : Refers s) (ht : Refers t) : Refers (s ++ t) := by
  rintro u ⟨before, hu⟩
  rcases List.append_eq_append_iff.1 hu with ⟨rest, hrest, h⟩ | ⟨rest, hrest, h⟩
  · cases rest with
    | nil => exact ht u ⟨[], h⟩
    | cons c rest =>
      obtain ⟨rfl, rfl⟩ := List.cons.inj h
      obtain ⟨r, hr, hbegins, hchar⟩ := hs rest ⟨before, hrest.symm⟩
      exact ⟨r, hr, hbegins.trans (List.prefix_append _ t), hchar⟩
  · exact ht u ⟨rest, h.symm⟩

theorem Refers.flatMap {α : Type} {f : α → List Char} (h : ∀ a, Refers (f a)) (l : List α) :
    Refers (l.flatMap f) := by
  induction l with
  | nil => exact .of_no_ampersand List.not_mem_nil
  | cons a l ih =>
    rw [List.flatMap_cons]
    exact (h a).append ih

theorem refers_reference : ∀ r ∈ references, Refers r.1 := by
  intro r hr
  have hchar : ∀ r ∈ references, IsChar r.2 := by decide
  obtain ⟨name, hname⟩ := reference_eq_cons r hr
  have hclean : '&' ∉ name := by
    have hall : ∀ r ∈ references, '&' ∉ r.1.tail := by decide
    have h := hall r hr
    rwa [hname] at h
  intro t ht
  rw [hname] at ht
  rcases List.suffix_cons_iff.1 ht with h | h
  · rw [h, ← hname]
    exact ⟨r, hr, List.prefix_rfl, hchar r hr⟩
  · exact absurd (h.mem List.mem_cons_self) hclean

theorem refers_escape (s : List Char) : Refers (escape s) := by
  refine Refers.flatMap (fun c => ?_) s
  rcases escapeChar_cases c with ⟨r, hr, heq, -⟩ | ⟨hc, heq⟩
  · rw [heq]
    exact refers_reference r hr
  · rw [heq]
    refine .of_no_ampersand fun hmem => hc ?_
    rw [← List.mem_singleton.1 hmem]
    decide

theorem refers_entry (s : Shown) : Refers (entry s) := by
  have hmark (mark : String) (h : '&' ∉ mark.toList) : Refers mark.toList := .of_no_ampersand h
  have hentry : entry s =
      "<flow>".toList ++ ((fields s).flatMap pairElement ++ "</flow>".toList) := by
    simp [entry, element]
  rw [hentry]
  refine (hmark "<flow>" (by decide)).append (.append (.flatMap (fun p => ?_) _)
    (hmark "</flow>" (by decide)))
  have h := pairElement_append p []
  rw [List.append_nil, List.append_nil] at h
  rw [h]
  exact (hmark _ (by decide)).append ((refers_escape _).append ((hmark _ (by decide)).append
    ((refers_escape _).append (hmark _ (by decide)))))

end FlowLines.Layout.Xml

namespace FlowLines

open FlowLines.Flow (Entry Record)
open FlowLines.Layout FlowLines.Layout.Xml

namespace Reporter

variable {σ : Type} (r : Reporter σ)

theorem noncharacters_shown {flows : List Entry} {memory : σ} {s : Shown}
    (h : s ∈ r.shown flows memory) :
    ∀ c ∈ s.source.toList ++ s.dest.toList, ¬ IsChar c → c ∈ noncharacters := by
  obtain ⟨⟨t, hsource⟩, u, hdest⟩ := r.exists_reveal_shown h
  intro c hc hchar
  rw [hsource, hdest, String.toList_ofList, String.toList_ofList] at hc
  have hillegal : c ∈ illegal (Text.reveal t.toList ++ Text.reveal u.toList) :=
    List.mem_filter.2 ⟨hc, by simpa⟩
  rw [illegal_append, illegal_reveal, illegal_reveal, ← List.filter_append] at hillegal
  simpa using (List.mem_filter.1 hillegal).2

end Reporter

namespace Layout

/-- The element of a flow, whose references are legal, and which has the illegal characters of its
texts from outside and no others. -/
structure Xml.Tells (s : Shown) (text : List Char) : Prop where
  isFlow : IsFlow text (fields s)
  refers : Refers text
  illegal : illegal text = illegal (free s)

theorem Xml.Tells.legal_iff {s : Shown} {text : List Char} (h : Tells s text) :
    Legal text ↔ Legal (free s) := by
  rw [← illegal_eq_nil_iff, h.illegal, illegal_eq_nil_iff]

theorem Xml.tells_entry (s : Shown) : Tells s (entry s) :=
  ⟨isFlow_entry s, refers_entry s, illegal_entry s⟩

/-- Whatever a record holds and a resolver answers, the lines of a report are elements of its flows
in which every reference is legal.  Their illegal characters are those of the next hops and of
the names of the hosts, in their order, and in the names there are only the two that are no
controls.  So all lines are legal exactly if these texts are. -/
theorem xml_illegal {σ : Type} (resolver : Host.Resolver σ) (marker : Option String)
    (record : Record) (d : Desk σ) :
    let r : Reporter σ := ⟨xml, resolver, marker⟩
    let shown := r.shown record.flows d.memory
    ∃ texts : List String,
      (r.write record d).2.sink.stored.toList = d.sink.stored.toList ++
        d.sink.room.elim (texts.flatMap lineBytes) ((texts.flatMap lineBytes).take ·) ∧
      shown.map Shown.flow = record.flows ∧
      List.Forall₂ (fun s text => Tells s text.toList) shown texts ∧
      (∀ s ∈ shown, ∀ c ∈ s.source.toList ++ s.dest.toList, ¬ IsChar c → c ∈ noncharacters) ∧
      ((∀ text ∈ texts, Legal text.toList) ↔ ∀ s ∈ shown, Legal (free s)) := by
  intro r shown
  let texts := shown.map fun s => String.ofList (Xml.entry s)
  have htexts : r.texts record.flows d.memory = texts := by
    apply r.texts_of_laid
    rw [List.map_map]
    rfl
  have htells (s : Shown) : Tells s (String.ofList (Xml.entry s)).toList := by
    rw [String.toList_ofList]
    exact tells_entry s
  refine ⟨texts, ?_, r.flows_shown _ _, ?_, fun s hs => r.noncharacters_shown hs, ?_⟩
  · rw [← htexts]
    exact r.stored_write record d
  · rw [List.forall₂_map_right_iff, List.forall₂_same]
    exact fun s _ => htells s
  · rw [List.forall_mem_map]
    exact forall₂_congr fun s _ => (htells s).legal_iff

theorem xml_illegal_control :
    let line := ["\x7b\"flows\":[\x7b\"source_host\":\"a\",\"source_port\":1,\"dest_host\":\"b\",",
      "\"dest_port\":2,\"bytes\":3,\"next_hop\":\"a\\u0001b\"\x7d]\x7d"].flatMap String.toList
    let r : Reporter Unit := ⟨xml, Host.Resolver.raw, none⟩
    ∃ record text, Record.ofLine line = .ok record ∧
      (r.write record { memory := () }).2.sink.stored.toList = lineBytes text ∧
      ∃ c ∈ text.toList, ¬ IsChar c := by
  intro line r
  have hstored (flow : Entry) : (r.write ⟨[flow]⟩ { memory := () }).2.sink.stored.toList =
      lineBytes (String.ofList (Xml.entry (rawShown flow))) := by
    have htexts : r.texts [flow] () = [String.ofList (Xml.entry (rawShown flow))] := by
      rw [Reporter.texts_singleton, Reporter.showFlow_raw rfl]
      rfl
    have hempty : ({ memory := () } : Desk Unit).sink.stored.toList = [] := rfl
    have hroom : ({ memory := () } : Desk Unit).sink.room = none := rfl
    rw [r.stored_write, Reporter.bytes, htexts, List.flatMap_singleton, hempty, hroom,
      Option.elim_none, List.nil_append]
  let flow := { Entry.new "a" 1 "b" 2 3 with nextHop := some "a\x01b" }
  have hread : Record.ofLine line = .ok ⟨[flow]⟩ := eq_ok_of_toOption (by decide +kernel)
  have hop : '\x01' ∈ free (rawShown flow) := by
    have hmem : '\x01' ∈ "a\x01b".toList := by decide
    exact List.mem_append_right _ (List.mem_append_right _ hmem)
  have hillegal : '\x01' ∈ illegal (free (rawShown flow)) := List.mem_filter.2 ⟨hop, by decide⟩
  rw [← illegal_entry, ← String.toList_ofList (l := Xml.entry (rawShown flow))] at hillegal
  exact ⟨⟨[flow]⟩, _, hread, hstored flow, '\x01', (List.mem_filter.1 hillegal).1, by decide⟩

end Layout

end FlowLines
