import FlowLines.Layout.Xml
import Mathlib.Data.List.Basic

/-! An element of named values says which values it was written from, whatever they look like. -/

namespace FlowLines.Layout.Xml

def references : List (List Char × Char) :=
  [("&amp;".toList, '&'), ("&lt;".toList, '<'), ("&gt;".toList, '>'), ("&quot;".toList, '"'),
    ("&apos;".toList, '\''), ("&#10;".toList, '\n'), ("&#13;".toList, '\r')]

inductive Spells : List Char → List Char → Prop
  | nil : Spells [] []
  | plain {c raw text} : c ∉ ['<', '>', '&'] → Spells raw text → Spells (c :: raw) (c :: text)
  | reference {r raw text} :
    r ∈ references → Spells raw text → Spells (r.1 ++ raw) (r.2 :: text)

inductive Attributes : List Char → List (String × String) → Prop
  | nil : Attributes [] []
  | cons {rawName rawValue name value rest pairs} :
    Spells rawName name.toList → Spells rawValue value.toList → Attributes rest pairs →
      Attributes ("<attribute><name>".toList ++ (rawName ++ ("</name><value>".toList ++
        (rawValue ++ ("</value></attribute>".toList ++ rest))))) ((name, value) :: pairs)

def IsFlow (text : List Char) (pairs : List (String × String)) : Prop :=
  ∃ attributes, Attributes attributes pairs ∧
    text = "<flow>".toList ++ (attributes ++ "</flow>".toList)

def readReference (s : List Char) : Option (Char × List Char) :=
  references.findSome? fun r => (s.dropPrefix? r.1).map (r.2, ·)

theorem readReference_append {r : List Char × Char} (h : r ∈ references) (rest : List Char) :
    readReference (r.1 ++ rest) = some (r.2, rest) := by
  simp only [references, List.mem_cons, List.not_mem_nil, or_false] at h
  rcases h with rfl | rfl | rfl | rfl | rfl | rfl | rfl <;>
    simp [readReference, references, List.dropPrefix?]

theorem exists_of_readReference {s rest : List Char} {c : Char}
    (h : readReference s = some (c, rest)) : ∃ r ∈ references, s = r.1 ++ rest ∧ r.2 = c := by
  obtain ⟨r, hr, h⟩ := List.exists_of_findSome?_eq_some h
  obtain ⟨t, ht, h⟩ := Option.map_eq_some_iff.1 h
  obtain ⟨p, hs, hp⟩ := List.dropPrefix?_eq_some_iff.1 ht
  cases h
  exact ⟨r, hr, by rw [hs, eq_of_beq hp], rfl⟩

theorem reference_eq_cons : ∀ r ∈ references, ∃ name, r.1 = '&' :: name := by
  simp [references]

theorem length_readReference {s rest : List Char} {c : Char}
    (h : readReference s = some (c, rest)) : rest.length < s.length := by
  obtain ⟨r, hr, rfl, -⟩ := exists_of_readReference h
  obtain ⟨name, hname⟩ := reference_eq_cons r hr
  rw [hname, List.length_append, List.length_cons]
  omega

def readText (s : List Char) : Option (List Char × List Char) :=
  match s with
  | [] => some ([], [])
  | c :: r =>
    if c = '<' then some ([], c :: r)
    else if c = '>' then none
    else if c = '&' then
      match _h : readReference (c :: r) with
      | none => none
      | some (d, r) => (fun (text, r) => (d :: text, r)) <$> readText r
    else (fun (text, r) => (c :: text, r)) <$> readText r
termination_by s.length
decreasing_by
  · exact length_readReference _h
  · exact Nat.lt_succ_self _

theorem readText_reference {r : List Char × Char} (hr : r ∈ references) {s text rest : List Char}
    (h : readText s = some (text, rest)) : readText (r.1 ++ s) = some (r.2 :: text, rest) := by
  obtain ⟨name, hname⟩ := reference_eq_cons r hr
  have hread := readReference_append hr s
  rw [hname, List.cons_append] at hread ⊢
  rw [readText, if_neg (by decide), if_neg (by decide), if_pos rfl]
  split
  · next hnone => rw [hread] at hnone; cases hnone
  · next hsome =>
    rw [hread] at hsome
    cases hsome
    rw [h]
    rfl

theorem readText_plain {c : Char} (hc : c ∉ ['<', '>', '&']) {s text rest : List Char}
    (h : readText s = some (text, rest)) : readText (c :: s) = some (c :: text, rest) := by
  simp only [List.mem_cons, List.not_mem_nil, or_false, not_or] at hc
  rw [readText, if_neg hc.1, if_neg hc.2.1, if_neg hc.2.2, h]
  rfl

theorem readText_of_spells {raw text : List Char} (h : Spells raw text) (rest : List Char) :
    readText (raw ++ '<' :: rest) = some (text, '<' :: rest) := by
  induction h with
  | nil => simp [readText]
  | plain hc _ ih => exact readText_plain hc ih
  | reference hr _ ih =>
    rw [List.append_assoc]
    exact readText_reference hr ih

theorem spells_of_readText {s text rest : List Char} (h : readText s = some (text, rest)) :
    ∃ raw, Spells raw text ∧ s = raw ++ rest := by
  fun_induction readText s generalizing text rest with
  | case1 =>
    cases h
    exact ⟨[], .nil, rfl⟩
  | case2 r =>
    cases h
    exact ⟨[], .nil, rfl⟩
  | case3 => cases h
  | case4 => cases h
  | case5 r _ _ d t hd ih =>
    obtain ⟨⟨v, u⟩, hv, heq⟩ := Option.map_eq_some_iff.1 h
    obtain ⟨raw, hraw, rfl⟩ := ih hv
    obtain ⟨ref, href, hs, rfl⟩ := exists_of_readReference hd
    cases heq
    exact ⟨ref.1 ++ raw, .reference href hraw, by rw [hs, List.append_assoc]⟩
  | case6 c r hlt hgt hamp ih =>
    obtain ⟨⟨v, u⟩, hv, heq⟩ := Option.map_eq_some_iff.1 h
    obtain ⟨raw, hraw, rfl⟩ := ih hv
    cases heq
    exact ⟨c :: raw, .plain (by simp [hlt, hgt, hamp]) hraw, rfl⟩

def readMark (mark : String) (s : List Char) : Option (List Char) := s.dropPrefix? mark.toList

theorem readMark_eq_some_iff {mark : String} {s rest : List Char} :
    readMark mark s = some rest ↔ s = mark.toList ++ rest := by
  rw [readMark, List.dropPrefix?_eq_some_iff]
  constructor
  · rintro ⟨p, rfl, hp⟩
    rw [eq_of_beq hp]
  · rintro rfl
    exact ⟨mark.toList, rfl, beq_self_eq_true _⟩

def readAttribute (s : List Char) : Option ((String × String) × List Char) := do
  let s ← readMark "<attribute><name>" s
  let (name, s) ← readText s
  let s ← readMark "</name><value>" s
  let (value, s) ← readText s
  let s ← readMark "</value></attribute>" s
  some ((String.ofList name, String.ofList value), s)

theorem exists_of_readAttribute {s rest : List Char} {name value : String}
    (h : readAttribute s = some ((name, value), rest)) :
    ∃ rawName rawValue, Spells rawName name.toList ∧ Spells rawValue value.toList ∧
      s = "<attribute><name>".toList ++ (rawName ++ ("</name><value>".toList ++
        (rawValue ++ ("</value></attribute>".toList ++ rest)))) := by
  obtain ⟨s₁, h₁, h⟩ := Option.bind_eq_some_iff.1 h
  obtain ⟨⟨n, s₂⟩, h₂, h⟩ := Option.bind_eq_some_iff.1 h
  obtain ⟨s₃, h₃, h⟩ := Option.bind_eq_some_iff.1 h
  obtain ⟨⟨v, s₄⟩, h₄, h⟩ := Option.bind_eq_some_iff.1 h
  obtain ⟨s₅, h₅, h⟩ := Option.bind_eq_some_iff.1 h
  obtain ⟨rawName, hname, hn⟩ := spells_of_readText h₂
  obtain ⟨rawValue, hvalue, hv⟩ := spells_of_readText h₄
  rw [readMark_eq_some_iff] at h₁ h₃ h₅
  cases h
  refine ⟨rawName, rawValue, ?_, ?_, ?_⟩
  · rwa [String.toList_ofList]
  · rwa [String.toList_ofList]
  · rw [h₁, hn, h₃, hv, h₅]

theorem readAttribute_of_spells {rawName rawValue : List Char} {name value : String}
    (hname : Spells rawName name.toList) (hvalue : Spells rawValue value.toList)
    (rest : List Char) :
    readAttribute ("<attribute><name>".toList ++ (rawName ++ ("</name><value>".toList ++
      (rawValue ++ ("</value></attribute>".toList ++ rest))))) = some ((name, value), rest) := by
  have hmark (mark : String) (s : List Char) : readMark mark (mark.toList ++ s) = some s :=
    readMark_eq_some_iff.2 rfl
  have hn (s : List Char) : readText (rawName ++ ("</name><value>".toList ++ s)) =
      some (name.toList, "</name><value>".toList ++ s) := readText_of_spells hname _
  have hv (s : List Char) : readText (rawValue ++ ("</value></attribute>".toList ++ s)) =
      some (value.toList, "</value></attribute>".toList ++ s) := readText_of_spells hvalue _
  simp only [readAttribute, hmark, hn, hv, Option.bind_eq_bind, Option.bind_some,
    String.ofList_toList]

theorem length_readAttribute {s rest : List Char} {p : String × String}
    (h : readAttribute s = some (p, rest)) : rest.length < s.length := by
  obtain ⟨rawName, rawValue, -, -, rfl⟩ := exists_of_readAttribute h
  have hmark : 0 < "<attribute><name>".toList.length := by decide
  simp only [List.length_append]
  omega

def readAttributes (s : List Char) : Option (List (String × String)) :=
  if s = "</flow>".toList then some []
  else
    match _h : readAttribute s with
    | none => none
    | some (p, r) => (p :: ·) <$> readAttributes r
termination_by s.length
decreasing_by exact length_readAttribute _h

def readFlow (s : List Char) : Option (List (String × String)) := do
  readAttributes (← readMark "<flow>" s)

theorem readAttributes_of_attributes {raw : List Char} {pairs : List (String × String)}
    (h : Attributes raw pairs) : readAttributes (raw ++ "</flow>".toList) = some pairs := by
  induction h with
  | nil => rw [List.nil_append, readAttributes, if_pos rfl]
  | cons hname hvalue _ ih =>
    simp only [List.append_assoc]
    have hread := readAttribute_of_spells hname hvalue
    rw [readAttributes, if_neg (by simp)]
    split
    · next hnone => rw [hread] at hnone; cases hnone
    · next hsome =>
      rw [hread] at hsome
      cases hsome
      rw [ih]
      rfl

theorem attributes_of_readAttributes {s : List Char} {pairs : List (String × String)}
    (h : readAttributes s = some pairs) :
    ∃ raw, Attributes raw pairs ∧ s = raw ++ "</flow>".toList := by
  fun_induction readAttributes s generalizing pairs with
  | case1 =>
    cases h
    exact ⟨[], .nil, rfl⟩
  | case2 => cases h
  | case3 s _ p r hp ih =>
    obtain ⟨ps, hps, heq⟩ := Option.map_eq_some_iff.1 h
    obtain ⟨raw, hraw, rfl⟩ := ih hps
    obtain ⟨rawName, rawValue, hname, hvalue, hs⟩ := exists_of_readAttribute hp
    cases heq
    refine ⟨_, .cons hname hvalue hraw, ?_⟩
    rw [hs]
    simp only [List.append_assoc]

theorem readFlow_eq_some_iff {s : List Char} {pairs : List (String × String)} :
    readFlow s = some pairs ↔ IsFlow s pairs := by
  constructor
  · intro h
    obtain ⟨r, hr, h⟩ := Option.bind_eq_some_iff.1 h
    obtain ⟨raw, hraw, rfl⟩ := attributes_of_readAttributes h
    exact ⟨raw, hraw, readMark_eq_some_iff.1 hr⟩
  · rintro ⟨raw, hraw, rfl⟩
    rw [readFlow, readMark_eq_some_iff.2 rfl]
    exact readAttributes_of_attributes hraw

theorem escapeChar_reference : ∀ r ∈ references, escapeChar r.2 = r.1 := by decide

theorem escapeChar_cases (c : Char) :
    (∃ r ∈ references, escapeChar c = r.1 ∧ c = r.2) ∨
      c ∉ ['<', '>', '&'] ∧ escapeChar c = [c] := by
  by_cases h : c ∈ references.map Prod.snd
  · left
    obtain ⟨r, hr, rfl⟩ := List.mem_map.1 h
    exact ⟨r, hr, escapeChar_reference r hr, rfl⟩
  · right
    simp only [references, List.map_cons, List.map_nil, List.mem_cons, List.not_mem_nil, or_false,
      not_or] at h
    simp [escapeChar, h]

theorem spells_escape (text : List Char) : Spells (escape text) text := by
  induction text with
  | nil => exact .nil
  | cons c text ih =>
    rw [escape, List.flatMap_cons]
    rcases escapeChar_cases c with ⟨r, hr, heq, rfl⟩ | ⟨hc, heq⟩
    · rw [heq]
      exact .reference hr ih
    · rw [heq]
      exact .plain hc ih

theorem pairElement_append (p : String × String) (rest : List Char) : pairElement p ++ rest =
    "<attribute><name>".toList ++ (escape p.1.toList ++ ("</name><value>".toList ++
      (escape p.2.toList ++ ("</value></attribute>".toList ++ rest)))) := by
  simp [pairElement, element]

theorem attributes_flatMap (pairs : List (String × String)) :
    Attributes (pairs.flatMap pairElement) pairs := by
  induction pairs with
  | nil => exact .nil
  | cons p pairs ih =>
    rw [List.flatMap_cons, pairElement_append]
    exact .cons (spells_escape p.1.toList) (spells_escape p.2.toList) ih

theorem isFlow_entry (shown : Shown) : IsFlow (entry shown) (fields shown) :=
  ⟨_, attributes_flatMap (fields shown), by simp [entry, element]⟩

end FlowLines.Layout.Xml

namespace FlowLines.Layout

open FlowLines.Layout.Xml

/-- The element of a flow is read back as the attributes of the flow under the names of its hosts,
by a reader that accepts such elements and nothing else. -/
theorem xml_read_back :
    (∀ (s : List Char) (pairs : List (String × String)),
      readFlow s = some pairs ↔ IsFlow s pairs) ∧
    ∀ (flow : Flow.Entry) (source dest : String),
      ∃ text, xml.entry ⟨flow, source, dest⟩ = .ok text ∧
        readFlow text.toList = some ([("sourceAddr", source),
          ("sourcePort", toString flow.sourcePort), ("destAddr", dest),
          ("destPort", toString flow.destPort), ("numOctets", toString flow.byteCount)] ++
            flow.attributes) := by
  constructor
  · intro s pairs
    exact readFlow_eq_some_iff
  · intro flow source dest
    refine ⟨_, rfl, ?_⟩
    rw [String.toList_ofList]
    exact readFlow_eq_some_iff.2 (isFlow_entry ⟨flow, source, dest⟩)

end FlowLines.Layout
