import FlowLines.Layout.Format
import FlowLines.Proofs.Layout.SameAttributes
import FlowLines.Proofs.Text.Visible

/-! What lines hold of the texts from outside: the label, the names of the hosts and the next hop.
All that a format writes beside them is printable ASCII, and so are its escapes. -/

namespace FlowLines

open FlowLines.Text

def Json.Scalar.chars : Json.Scalar → List Char
  | .text s => s.toList
  | .natural _ => []

@[simp] theorem Json.Scalar.chars_text (s : String) : (Scalar.text s).chars = s.toList := rfl

@[simp] theorem Json.Scalar.chars_natural (n : Nat) : (Scalar.natural n).chars = [] := rfl

namespace Flow

/-- The next hop, which is the only attribute with a text from outside. -/
def Entry.hop (e : Entry) : List Char := e.nextHop.elim [] String.toList

theorem Field.visible_name (f : Field) : Visible f.name.toList := by cases f <;> decide

theorem Field.visible_text {f : Field} (hf : f ≠ .nextHop) {v : f.Value} {text : String}
    (h : f.text? v = some text) : Visible text.toList := by
  cases f with
  | sourceHost | destHost | sourcePort | destPort | byteCount => cases h
  | nextHop => exact absurd rfl hf
  | firstSeen | lastSeen =>
    obtain ⟨i, -, rfl⟩ := Option.map_eq_some_iff.1 h
    rw [String.toList_ofList]
    exact i.visible_write .digits
  | _ =>
    obtain ⟨n, -, rfl⟩ := Option.map_eq_some_iff.1 h
    rw [String.toList_ofList]
    exact visible_decimal _

theorem Field.visible_scalar {f : Field} (hoptional : f ∈ Field.optional) (hf : f ≠ .nextHop)
    {v : f.Value} {x : Json.Scalar} (h : f.scalar? v = some x) : Visible x.chars := by
  cases f with
  | sourceHost | destHost | sourcePort | destPort | byteCount => simp [optional] at hoptional
  | nextHop => exact absurd rfl hf
  | firstSeen | lastSeen =>
    obtain ⟨i, -, rfl⟩ := Option.map_eq_some_iff.1 h
    rw [Json.Scalar.chars, String.toList_ofList]
    exact i.visible_write .letter
  | _ =>
    obtain ⟨n, -, rfl⟩ := Option.map_eq_some_iff.1 h
    exact visible_nil

theorem filter_optional {p : Char → Bool} {α : Type} {g : Field → Option α} {write : α → List Char}
    (h : ∀ f ∈ Field.optional, f ≠ .nextHop → ∀ a, g f = some a → (write a).filter p = []) :
    ((Field.optional.filterMap g).flatMap write).filter p =
      ((g .nextHop).toList.flatMap write).filter p := by
  have hhead : Field.optional = .nextHop :: Field.optional.tail := rfl
  have htail : ((Field.optional.tail.filterMap g).flatMap write).filter p = [] := by
    rw [List.filter_flatMap, List.flatMap_eq_nil_iff]
    intro a ha
    obtain ⟨f, hf, hg⟩ := List.mem_filterMap.1 ha
    have hne : ∀ f ∈ Field.optional.tail, f ≠ .nextHop := by decide
    exact h f (List.mem_of_mem_tail hf) (hne f hf) a hg
  rw [hhead, filterMap_cons_toList, List.flatMap_append, List.filter_append, htail, List.append_nil]

theorem filter_attributes {p : Char → Bool} (hp : Unseen p) (e : Entry) :
    (e.attributes.flatMap (·.2.toList)).filter p = e.hop.filter p := by
  rw [Entry.attributes_eq, filter_optional]
  · have hattribute : e.attribute? .nextHop = e.nextHop.map (Field.nextHop.name, ·) := rfl
    rw [hattribute, Entry.hop]
    cases e.nextHop with
    | none => rfl
    | some hop =>
      rw [Option.map_some, Option.toList_some, List.flatMap_singleton]
      rfl
  · intro f _ hf a ha
    obtain ⟨text, htext, rfl⟩ := Option.map_eq_some_iff.1 ha
    exact hp.filter_visible (Field.visible_text hf htext)

theorem filter_members {p : Char → Bool} (hp : Unseen p) (e : Entry) :
    ((Field.optional.filterMap e.member?).flatMap (·.2.chars)).filter p = e.hop.filter p := by
  rw [filter_optional]
  · have hmember : e.member? .nextHop = (e.nextHop.map .text).map (Field.nextHop.name, ·) := rfl
    rw [hmember, Entry.hop]
    cases e.nextHop with
    | none => rfl
    | some hop =>
      rw [Option.map_some, Option.map_some, Option.toList_some, List.flatMap_singleton]
      rfl
  · intro f hoptional hf m hm
    obtain ⟨x, hx, rfl⟩ := Option.map_eq_some_iff.1 hm
    exact hp.filter_visible (Field.visible_scalar hoptional hf hx)

end Flow

/-- Whether a character that is no printable ASCII is written as it is.  The others have escapes of
their own. -/
def Format.keeps : Format → Char → Bool
  | line, _ => true
  | logfmt, c | xml, c => !isBreak c
  | jsonLines, c => 0x20 ≤ c.toNat

namespace Layout

section

variable {p : Char → Bool} (hp : Unseen p)

include hp

namespace Logfmt

theorem filter_escapeChar (c : Char) :
    (escapeChar c).filter p = [c].filter fun c => p c && Format.logfmt.keeps c := by
  have hq := hp.and Format.logfmt.keeps
  unfold escapeChar
  split
  · next h => rw [h, hp.filter_visible (by decide), hq.filter_visible (by decide)]
  split
  · next h => rw [h, hp.filter_visible (by decide), hq.filter_visible (by decide)]
  split
  · next h =>
    rw [h, hp.filter_visible (by decide)]
    simp [Format.keeps, isBreak]
  split
  · next h =>
    rw [h, hp.filter_visible (by decide)]
    simp [Format.keeps, isBreak]
  · next hfeed hreturn => simp [List.filter_cons, Format.keeps, isBreak, hfeed, hreturn]

theorem filter_writeValue (value : List Char) :
    (writeValue value).filter p = value.filter fun c => p c && Format.logfmt.keeps c := by
  by_cases hquotes : needsQuotes value
  · have hquote : ['"'].filter p = [] := hp.filter_visible (by decide)
    have hvalue := filter_flatMap_eq (filter_escapeChar hp) value
    rw [writeValue, if_pos hquotes, List.filter_append, ← List.singleton_append,
      List.filter_append, hquote, hvalue, List.nil_append, List.append_nil]
  · rw [writeValue, if_neg hquotes]
    simp only [needsQuotes, Bool.or_eq_true, not_or, Bool.not_eq_true', Bool.not_eq_false]
      at hquotes
    refine List.filter_congr fun c hc => ?_
    have hplain : isPlain c := List.all_eq_true.1 hquotes.2 c hc
    have hkeeps : Format.logfmt.keeps c := by
      simp only [isPlain, Bool.not_eq_true', Bool.or_eq_false_iff, decide_eq_false_iff_not]
        at hplain
      simp [Format.keeps, isBreak, hplain]
    rw [hkeeps, Bool.and_true]

theorem filter_writeFields {fields : List (String × String)}
    (h : ∀ f ∈ fields, Visible f.1.toList) : (writeFields fields).filter p =
      (fields.flatMap (·.2.toList)).filter fun c => p c && Format.logfmt.keeps c := by
  rw [writeFields, filter_intercalate (hp.filter_visible (by decide)), List.flatMap_map,
    List.filter_flatMap]
  refine List.flatMap_congr fun f hf => ?_
  have hequals : ['='].filter p = [] := hp.filter_visible (by decide)
  rw [writePair, List.filter_append, hp.filter_visible (h f hf), ← List.singleton_append,
    List.filter_append, hequals, filter_writeValue hp]
  rfl

end Logfmt

namespace Xml

theorem filter_escapeChar (c : Char) :
    (escapeChar c).filter p = [c].filter fun c => p c && Format.xml.keeps c := by
  have hq := hp.and Format.xml.keeps
  have hreference : ∀ r ∈ references,
      Visible r.1 ∧ (Visible [r.2] ∨ Format.xml.keeps r.2 = false) := by decide
  rcases escapeChar_cases c with ⟨r, hr, heq, rfl⟩ | ⟨-, heq⟩
  · obtain ⟨hvisible, hmark | hbreak⟩ := hreference r hr
    · rw [heq, hp.filter_visible hvisible, hq.filter_visible hmark]
    · rw [heq, hp.filter_visible hvisible]
      simp [hbreak]
  · have hkeeps : Format.xml.keeps c := by
      rw [Format.keeps, isBreak, Bool.not_eq_true', Bool.or_eq_false_iff,
        decide_eq_false_iff_not, decide_eq_false_iff_not]
      constructor <;> rintro rfl <;> exact absurd heq (by decide)
    rw [heq]
    simp [List.filter_cons, hkeeps]

theorem filter_pairElement {f : String × String} (h : Visible f.1.toList) :
    (pairElement f).filter p = f.2.toList.filter fun c => p c && Format.xml.keeps c := by
  have hescape (s : List Char) := filter_flatMap_eq (filter_escapeChar hp) s
  have hopen : "<attribute><name>".toList.filter p = [] := hp.filter_visible (by decide)
  have hbetween : "</name><value>".toList.filter p = [] := hp.filter_visible (by decide)
  have hclose : "</value></attribute>".toList.filter p = [] := hp.filter_visible (by decide)
  have happend := pairElement_append f []
  rw [List.append_nil, List.append_nil] at happend
  rw [happend]
  simp only [List.filter_append, hopen, hbetween, hclose, escape, hescape,
    (hp.and _).filter_visible h, List.nil_append, List.append_nil]

end Xml

end

end Layout

namespace Json

theorem visible_of_simpleEscape {c d : Char} (h : simpleEscape? d = some c) :
    Visible [d] ∧ (Visible [c] ∨ Format.jsonLines.keeps c = false) := by
  unfold simpleEscape? at h
  repeat' split at h
  all_goals cases h <;> subst d <;> decide

section

variable {p : Char → Bool} (hp : Unseen p)

include hp

theorem filter_writeChar (c : Char) :
    (writeChar c).filter p = [c].filter fun c => p c && Format.jsonLines.keeps c := by
  have hslash {s : List Char} (h : Visible s) : ('\\' :: s).filter p = [] :=
    hp.filter_visible (visible_cons.2 ⟨by decide, h⟩)
  rcases writeChar_cases c with ⟨-, -, hc, heq⟩ | ⟨d, -, hd, heq⟩ | ⟨hc, heq⟩
  · simp [heq, List.filter_cons, Format.keeps, Nat.not_lt.1 hc]
  · obtain ⟨hvisible, hmark | hlow⟩ := visible_of_simpleEscape hd
    · rw [heq, hslash hvisible, (hp.and _).filter_visible hmark]
    · rw [heq, hslash hvisible]
      simp [hlow]
  · have hhex : Visible ('u' :: padLeft 4 (hex c.toNat)) :=
      visible_cons.2 ⟨by decide, visible_padLeft (visible_hex c.toNat) 4⟩
    rw [heq, hslash hhex]
    simp [Format.keeps, hc]

theorem filter_writeString (s : List Char) :
    (writeString s).filter p = s.filter fun c => p c && Format.jsonLines.keeps c := by
  have hquote : ['"'].filter p = [] := hp.filter_visible (by decide)
  rw [writeString, ← List.singleton_append, List.filter_append, List.filter_append, hquote,
    filter_flatMap_eq (filter_writeChar hp), List.nil_append, List.append_nil]

theorem filter_writeMember {m : String × Scalar} (h : Visible m.1.toList) :
    (writeMember m).filter p = m.2.chars.filter fun c => p c && Format.jsonLines.keeps c := by
  have hcolon : [':'].filter p = [] := hp.filter_visible (by decide)
  rw [writeMember, ← List.singleton_append, List.filter_append, List.filter_append, hcolon,
    filter_writeString hp, (hp.and _).filter_visible h, List.nil_append, List.nil_append]
  cases m.2 with
  | text s => exact filter_writeString hp s.toList
  | natural n => exact hp.filter_visible (visible_decimal n)

theorem filter_writeObject {o : Object} (h : ∀ m ∈ o, Visible m.1.toList) :
    (writeObject o).filter p =
      (o.flatMap (·.2.chars)).filter fun c => p c && Format.jsonLines.keeps c := by
  have hopen : ['\x7b'].filter p = [] := hp.filter_visible (by decide)
  have hclose : ['\x7d'].filter p = [] := hp.filter_visible (by decide)
  have hcomma : [','].filter p = [] := hp.filter_visible (by decide)
  rw [writeObject, ← List.singleton_append, List.filter_append, List.filter_append, hopen, hclose,
    filter_intercalate hcomma, List.nil_append, List.append_nil, List.flatMap_map,
    List.filter_flatMap]
  exact List.flatMap_congr fun m hm => filter_writeMember hp (h m hm)

end

end Json

namespace Layout

theorem Xml.visible_names (s : Shown) : ∀ f ∈ Xml.fields s, Visible f.1.toList := by
  have hown : ∀ name ∈ ["sourceAddr", "sourcePort", "destAddr", "destPort", "numOctets"],
      Visible name.toList := by decide
  have hattributes : ∀ name ∈ Flow.attributeNames, Visible name.toList := by decide
  intro f hf
  rcases List.mem_append.1 hf with hf | hf
  · exact hown f.1 (List.mem_map_of_mem (f := Prod.fst) hf)
  · exact hattributes f.1 (Flow.mem_attributeNames hf)

theorem JsonLines.visible_names (label : String) (s : Shown) :
    ∀ m ∈ JsonLines.members label s, Visible m.1.toList := by
  intro m hm
  rcases List.mem_cons.1 hm with rfl | hm
  · exact (by decide : Visible "label".toList)
  · rw [Flow.Entry.members_eq] at hm
    obtain ⟨f, -, hf⟩ := List.mem_filterMap.1 hm
    obtain ⟨x, -, rfl⟩ := Option.map_eq_some_iff.1 hf
    exact f.visible_name

section

variable {p : Char → Bool} (hp : Unseen p)

include hp

theorem filter_port (port : UInt16) : (':' :: decimal port.toNat).filter p = [] :=
  hp.filter_visible (visible_cons.2 ⟨by decide, visible_decimal _⟩)

theorem Line.filter_entry (label : String) (s : Shown) :
    (Line.entry label s).filter p =
      (label.toList ++ (s.source.toList ++ s.dest.toList)).filter p := by
  have hsource : " source=".toList.filter p = [] := hp.filter_visible (by decide)
  have hdest : ", dest=".toList.filter p = [] := hp.filter_visible (by decide)
  have hbytes : ", bytes=".toList.filter p = [] := hp.filter_visible (by decide)
  simp only [Line.entry, List.filter_append, hsource, hdest, hbytes, filter_port hp,
    hp.filter_visible (visible_decimal _), List.nil_append, List.append_nil, List.append_assoc]

theorem Logfmt.filter_fields (label : String) (s : Shown) :
    ((Logfmt.fields label s).flatMap (·.2.toList)).filter p =
      (label.toList ++ (s.source.toList ++ (s.dest.toList ++ s.flow.hop))).filter p := by
  simp only [Logfmt.fields, List.flatMap_append, List.flatMap_cons, List.flatMap_nil,
    String.toList_ofList, List.filter_append, filter_port hp, hp.filter_visible (visible_decimal _),
    Flow.filter_attributes hp, List.append_nil, List.append_assoc, List.nil_append]

theorem Xml.filter_entry (s : Shown) : (Xml.entry s).filter p =
    ((Xml.fields s).flatMap (·.2.toList)).filter fun c => p c && Format.xml.keeps c := by
  have hopen : "<flow>".toList.filter p = [] := hp.filter_visible (by decide)
  have hclose : "</flow>".toList.filter p = [] := hp.filter_visible (by decide)
  have hentry : Xml.entry s =
      "<flow>".toList ++ ((Xml.fields s).flatMap Xml.pairElement ++ "</flow>".toList) := by
    simp [Xml.entry, Xml.element]
  rw [hentry, List.filter_append, List.filter_append, hopen, hclose, List.nil_append,
    List.append_nil, List.filter_flatMap, List.filter_flatMap]
  exact List.flatMap_congr fun f hf => Xml.filter_pairElement hp (Xml.visible_names s f hf)

theorem Xml.filter_fields (s : Shown) :
    ((Xml.fields s).flatMap (·.2.toList)).filter p =
      (s.source.toList ++ (s.dest.toList ++ s.flow.hop)).filter p := by
  simp only [Xml.fields, List.flatMap_append, List.flatMap_cons, List.flatMap_nil,
    String.toList_ofList, List.filter_append, hp.filter_visible (visible_decimal _),
    Flow.filter_attributes hp, List.append_nil, List.append_assoc, List.nil_append]

theorem JsonLines.filter_members (label : String) (s : Shown) :
    ((JsonLines.members label s).flatMap (·.2.chars)).filter p =
      (label.toList ++ (s.source.toList ++ (s.dest.toList ++ s.flow.hop))).filter p := by
  have hmembers : JsonLines.members label s = ("label", .text label) :: (told s).members := rfl
  have hhop : (told s).hop = s.flow.hop := rfl
  rw [hmembers, Flow.Entry.members_optional]
  simp only [List.flatMap_append, List.flatMap_cons, List.flatMap_nil, Json.Scalar.chars_text,
    Json.Scalar.chars_natural, List.filter_append, Flow.filter_members hp, hhop, List.nil_append,
    List.append_nil, List.append_assoc]
  rfl

end

end Layout

namespace Format

open FlowLines.Layout

/-- The texts from outside that a line holds, in their order. -/
def outside (label : String) (s : Shown) : Format → List Char
  | line => label.toList ++ (s.source.toList ++ s.dest.toList)
  | logfmt | jsonLines => label.toList ++ (s.source.toList ++ (s.dest.toList ++ s.flow.hop))
  | xml => s.source.toList ++ (s.dest.toList ++ s.flow.hop)

/-- Every character of a line that is no printable ASCII is from outside. -/
theorem filter_entry {p : Char → Bool} (hp : Unseen p) (format : Format) (label : String)
    (s : Shown) : ∃ text, (format.layout label).entry s = .ok text ∧
      text.toList.filter p = (format.outside label s).filter fun c => p c && format.keeps c := by
  cases format with
  | line =>
    refine ⟨_, rfl, ?_⟩
    rw [String.toList_ofList, Line.filter_entry hp]
    exact List.filter_congr fun c _ => (Bool.and_true _).symm
  | logfmt =>
    have hnames : ∀ name ∈ Logfmt.names, Visible name.toList := by decide
    refine ⟨_, rfl, ?_⟩
    rw [String.toList_ofList,
      Logfmt.filter_writeFields hp fun f hf => hnames f.1 (Logfmt.mem_names hf),
      Logfmt.filter_fields (hp.and _)]
    rfl
  | jsonLines =>
    refine ⟨_, rfl, ?_⟩
    rw [String.toList_ofList, Json.filter_writeObject hp (JsonLines.visible_names label s),
      JsonLines.filter_members (hp.and _)]
    rfl
  | xml =>
    refine ⟨_, rfl, ?_⟩
    rw [String.toList_ofList, Xml.filter_entry hp, Xml.filter_fields (hp.and _)]
    rfl

end Format

end FlowLines
