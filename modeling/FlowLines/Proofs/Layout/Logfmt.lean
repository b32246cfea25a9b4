import FlowLines.Layout.Logfmt
import FlowLines.Proofs.Flow.Attributes
import Mathlib.Data.List.Basic

/-! A line of `key=value` pairs says which pairs it was written from, whatever their values. -/

namespace FlowLines.Layout.Logfmt

def unescape? (c : Char) : Option Char :=
  if c = '\\' then some '\\'
  else if c = '"' then some '"'
  else if c = 'n' then some '\n'
  else if c = 'r' then some '\r'
  else none

/-- Reads to the next quote that has no backslash before it, and passes it. -/
def readQuoted : List Char → Option (List Char × List Char)
  | [] => none
  | c :: r =>
    if c = '"' then some ([], r)
    else if c = '\\' then
      match r with
      | [] => none
      | e :: r => do
        let d ← unescape? e
        let (value, r) ← readQuoted r
        some (d :: value, r)
    else do
      let (value, r) ← readQuoted r
      some (c :: value, r)

/-- A value without quotes goes to the next space or to the end. -/
def readValue : List Char → Option (List Char × List Char)
  | '"' :: r => readQuoted r
  | s => some (s.takeWhile (· ≠ ' '), s.dropWhile (· ≠ ' '))

def readPair (s : List Char) : Option ((String × String) × List Char) :=
  match s.dropWhile (· ≠ '=') with
  | [] => none
  | _ :: r => do
    let (value, r) ← readValue r
    some ((String.ofList (s.takeWhile (· ≠ '=')), String.ofList value), r)

theorem length_readQuoted {s value rest : List Char} (h : readQuoted s = some (value, rest)) :
    rest.length < s.length := by
  fun_induction readQuoted s generalizing value rest with
  | case1 => cases h
  | case2 r =>
    cases h
    exact Nat.lt_succ_self _
  | case3 => cases h
  | case4 _ e r ih =>
    obtain ⟨d, -, h⟩ := Option.bind_eq_some_iff.1 h
    obtain ⟨⟨v, t⟩, hv, h⟩ := Option.bind_eq_some_iff.1 h
    cases h
    have := ih hv
    simp only [List.length_cons]
    omega
  | case5 c r _ _ ih =>
    obtain ⟨⟨v, t⟩, hv, h⟩ := Option.bind_eq_some_iff.1 h
    cases h
    exact Nat.lt_succ_of_lt (ih hv)

theorem length_readValue {s value rest : List Char} (h : readValue s = some (value, rest)) :
    rest.length ≤ s.length := by
  unfold readValue at h
  split at h
  · exact Nat.le_succ_of_le (Nat.le_of_lt (length_readQuoted h))
  · cases h
    exact (List.dropWhile_sublist _).length_le

theorem length_readPair {s : List Char} {p : String × String} {rest : List Char}
    (h : readPair s = some (p, rest)) : rest.length < s.length := by
  unfold readPair at h
  split at h
  · cases h
  · next r hr =>
    obtain ⟨⟨v, t⟩, hv, h⟩ := Option.bind_eq_some_iff.1 h
    cases h
    have hle := (List.dropWhile_sublist (l := s) (· ≠ '=')).length_le
    rw [hr, List.length_cons] at hle
    have := length_readValue hv
    omega

def readPairs (s : List Char) : Option (List (String × String)) :=
  match _h : readPair s with
  | none => none
  | some (p, []) => some [p]
  | some (p, c :: r) => if c = ' ' then (p :: ·) <$> readPairs r else none
termination_by s.length
decreasing_by
  have := length_readPair _h
  simp only [List.length_cons] at this
  omega

def readFields (s : List Char) : Option (List (String × String)) :=
  if s.isEmpty then some [] else readPairs s

def replace (c : Char) (text s : List Char) : List Char :=
  s.flatMap fun d => if d = c then text else [d]

theorem replace_append (c : Char) (text s t : List Char) :
    replace c text (s ++ t) = replace c text s ++ replace c text t := List.flatMap_append

/-- Going through a value once does what four replacements do, of which the one of the backslash
has to come first. -/
theorem escape_eq_replace (value : List Char) :
    value.flatMap escapeChar =
      replace '\r' ['\\', 'r'] (replace '\n' ['\\', 'n']
        (replace '"' ['\\', '"'] (replace '\\' ['\\', '\\'] value))) := by
  induction value with
  | nil => rfl
  | cons c value ih =>
    have hone : escapeChar c = replace '\r' ['\\', 'r'] (replace '\n' ['\\', 'n']
        (replace '"' ['\\', '"'] (replace '\\' ['\\', '\\'] [c]))) := by
      unfold escapeChar
      repeat' split
      all_goals simp_all [replace]
    rw [List.flatMap_cons, ih, hone, ← replace_append, ← replace_append, ← replace_append,
      ← replace_append, List.singleton_append]

theorem readQuoted_quote (r : List Char) : readQuoted ('"' :: r) = some ([], r) := by
  cases r <;> rfl

theorem readQuoted_plain {c : Char} (hquote : c ≠ '"') (hslash : c ≠ '\\')
    {r value rest : List Char}
    (h : readQuoted r = some (value, rest)) : readQuoted (c :: r) = some (c :: value, rest) := by
  cases r with
  | nil => cases h
  | cons d r => simp [readQuoted, hquote, hslash, h]

theorem readQuoted_escape (value rest : List Char) :
    readQuoted (value.flatMap escapeChar ++ '"' :: rest) = some (value, rest) := by
  induction value with
  | nil => exact readQuoted_quote rest
  | cons c value ih =>
    rw [List.flatMap_cons, List.append_assoc, escapeChar]
    split
    · next h => simp [readQuoted, unescape?, ih, h]
    split
    · next h => simp [readQuoted, unescape?, ih, h]
    split
    · next h => simp [readQuoted, unescape?, ih, h]
    split
    · next h => simp [readQuoted, unescape?, ih, h]
    · next hslash hquote _ _ => exact readQuoted_plain hquote hslash ih

def Ended (rest : List Char) : Prop := ∀ c ∈ rest.head?, c = ' '

theorem ended_nil : Ended [] := by simp [Ended]

theorem ended_space (rest : List Char) : Ended (' ' :: rest) := by simp [Ended]

theorem readValue_plain {value rest : List Char} (h : value.all isPlain) (hne : value ≠ [])
    (hrest : Ended rest) : readValue (value ++ rest) = some (value, rest) := by
  have hplain (c : Char) (hc : c ∈ value) : isPlain c := List.all_eq_true.1 h c hc
  have hspace (c : Char) (hc : c ∈ value) : decide (c ≠ ' ') = true := by
    rw [decide_eq_true_eq]
    rintro rfl
    exact absurd (hplain ' ' hc) (by decide)
  have hquote (r : List Char) : value ++ rest ≠ '"' :: r := by
    cases value with
    | nil => exact absurd rfl hne
    | cons c value =>
      intro heq
      cases heq
      exact absurd (hplain '"' List.mem_cons_self) (by decide)
  have htake : rest.takeWhile (· ≠ ' ') = [] := by
    cases rest with
    | nil => rfl
    | cons c rest => simp [hrest c rfl]
  have hdrop : rest.dropWhile (· ≠ ' ') = rest := by
    cases rest with
    | nil => rfl
    | cons c rest => simp [hrest c rfl]
  unfold readValue
  split
  · next r heq => exact absurd heq (hquote r)
  · rw [List.takeWhile_append_of_pos hspace, List.dropWhile_append_of_pos hspace, htake, hdrop,
      List.append_nil]

theorem readValue_write (value : List Char) {rest : List Char} (h : Ended rest) :
    readValue (writeValue value ++ rest) = some (value, rest) := by
  by_cases hq : needsQuotes value
  · rw [writeValue, if_pos hq, List.cons_append, List.cons_append, List.append_assoc]
    exact readQuoted_escape value rest
  · rw [writeValue, if_neg hq]
    simp only [needsQuotes, Bool.or_eq_true, not_or, List.isEmpty_iff, Bool.not_eq_true',
      Bool.not_eq_false] at hq
    exact readValue_plain hq.2 hq.1 h

theorem readPair_write {p : String × String} (hkey : '=' ∉ p.1.toList) {rest : List Char}
    (h : Ended rest) : readPair (writePair p ++ rest) = some (p, rest) := by
  have hne (c : Char) (hc : c ∈ p.1.toList) : decide (c ≠ '=') = true := by
    rw [decide_eq_true_eq]
    rintro rfl
    exact hkey hc
  have htext : writePair p ++ rest = p.1.toList ++ '=' :: (writeValue p.2.toList ++ rest) := by
    rw [writePair, List.append_assoc, List.cons_append]
  have hmark (r : List Char) : ('=' :: r).takeWhile (· ≠ '=') = [] := by simp
  have hmark' (r : List Char) : ('=' :: r).dropWhile (· ≠ '=') = '=' :: r := by simp
  rw [htext, readPair, List.takeWhile_append_of_pos hne, List.dropWhile_append_of_pos hne, hmark,
    hmark', List.append_nil]
  simp only [readValue_write _ h, Option.bind_eq_bind, Option.bind_some, String.ofList_toList]

theorem readPairs_write {p : String × String} {fields : List (String × String)}
    (h : ∀ q ∈ p :: fields, '=' ∉ q.1.toList) :
    readPairs (writeFields (p :: fields)) = some (p :: fields) := by
  -- each pair ends where the space before the next one stands
  induction fields generalizing p with
  | nil =>
    have hread := readPair_write (h p List.mem_cons_self) ended_nil
    rw [List.append_nil] at hread
    rw [writeFields, List.map_singleton, List.intercalate_singleton, readPairs, hread]
  | cons q fields ih =>
    have htext : writeFields (p :: q :: fields) =
        writePair p ++ ' ' :: writeFields (q :: fields) := by
      simp only [writeFields, List.map_cons, List.intercalate_cons_cons, List.append_assoc,
        List.singleton_append]
    have hread := readPair_write (h p List.mem_cons_self) (ended_space (writeFields (q :: fields)))
    rw [htext, readPairs, hread]
    simp only [if_true, ih fun r hr => h r (List.mem_cons_of_mem p hr), Option.map_eq_map,
      Option.map_some]

theorem readFields_write {fields : List (String × String)}
    (h : ∀ p ∈ fields, '=' ∉ p.1.toList) : readFields (writeFields fields) = some fields := by
  cases fields with
  | nil => rfl
  | cons p fields =>
    have hne : (writeFields (p :: fields)).isEmpty = false := by
      cases fields <;> simp [writeFields, writePair]
    rw [readFields, hne]
    exact readPairs_write h

open FlowLines.Flow (attributeNames)

def names : List String := ["label", "source", "dest", "bytes"] ++ attributeNames

theorem equals_notMem_name : ∀ name ∈ names, '=' ∉ name.toList := by decide

theorem mem_names {label : String} {shown : Shown} {p : String × String}
    (h : p ∈ fields label shown) : p.1 ∈ names := by
  rcases List.mem_append.1 h with h | h
  · have hown : p.1 ∈ ["label", "source", "dest", "bytes"] := List.mem_map_of_mem (f := Prod.fst) h
    exact List.mem_append_left _ hown
  · exact List.mem_append_right _ (Flow.mem_attributeNames h)

theorem readFields_fields (label : String) (shown : Shown) :
    readFields (writeFields (fields label shown)) = some (fields label shown) :=
  readFields_write fun p hp => equals_notMem_name p.1 (mem_names hp)

theorem text_endPoint (host : String) (port : UInt16) :
    String.ofList (host.toList ++ ':' :: FlowLines.Text.decimal port.toNat) =
      s!"{host}:{port}" := by
  have hport : toString port = String.ofList (FlowLines.Text.decimal port.toNat) := rfl
  have hhost : toString host = host := rfl
  apply String.toList_inj.1
  rw [hport, hhost]
  simp only [String.toList_append, String.toList_ofList, List.append_assoc]
  rfl

theorem fields_eq (label : String) (flow : Flow.Entry) (source dest : String) :
    fields label ⟨flow, source, dest⟩ =
      [("label", label), ("source", s!"{source}:{flow.sourcePort}"),
        ("dest", s!"{dest}:{flow.destPort}"), ("bytes", toString flow.byteCount)] ++
          flow.attributes := by
  rw [← text_endPoint, ← text_endPoint]
  rfl

/-- The names whose values hold a text from outside. -/
def freeNames : List String := ["label", "source", "dest", "next_hop"]

theorem attributes_of_nextHop (e : Flow.Entry) (hop : String → String) :
    let attributes := { e with nextHop := e.nextHop.map hop }.attributes
    attributes.map Prod.fst = e.attributes.map Prod.fst ∧
      attributes.filter (·.1 ∉ freeNames) = e.attributes.filter (·.1 ∉ freeNames) := by
  intro attributes
  have h := Flow.attributes_nextHop { e with nextHop := e.nextHop.map hop }
  rw [Flow.attributes_nextHop e, show attributes = _ from h]
  cases e.nextHop with
  | none => exact ⟨rfl, rfl⟩
  | some text => simp [freeNames]

end FlowLines.Layout.Logfmt

namespace FlowLines.Layout

open FlowLines.Flow (Entry)
open FlowLines.Layout.Logfmt

/-- Fields are read back as they were written, whatever their values are.  So a line tells of its
label, its flow and the names of the hosts, and a text from outside changes no more than the value
that it is. -/
theorem logfmt_read_back :
    (∀ fields : List (String × String),
      (∀ p ∈ fields, ∀ c ∈ p.1.toList, c ≠ ' ' ∧ c ≠ '=' ∧ c ≠ '"') →
        readFields (writeFields fields) = some fields) ∧
    ∀ (label : String) (flow : Entry) (source dest : String),
      ∃ text pairs, (logfmt label).entry ⟨flow, source, dest⟩ = .ok text ∧
        readFields text.toList = some pairs ∧
        pairs = [("label", label), ("source", s!"{source}:{flow.sourcePort}"),
          ("dest", s!"{dest}:{flow.destPort}"), ("bytes", toString flow.byteCount)] ++
            flow.attributes ∧
        ∀ (label' source' dest' : String) (hop : String → String),
          ∃ text' pairs', (logfmt label').entry
              ⟨{ flow with nextHop := flow.nextHop.map hop }, source', dest'⟩ = .ok text' ∧
            readFields text'.toList = some pairs' ∧
            pairs'.map Prod.fst = pairs.map Prod.fst ∧
            pairs'.filter (·.1 ∉ freeNames) = pairs.filter (·.1 ∉ freeNames) := by
  have hread (label : String) (shown : Shown) :
      readFields (String.ofList (writeFields (fields label shown))).toList =
        some (fields label shown) := by
    rw [String.toList_ofList, readFields_fields]
  constructor
  · intro fields h
    apply readFields_write
    intro p hp hmem
    exact (h p hp '=' hmem).2.1 rfl
  · intro label flow source dest
    refine ⟨_, _, rfl, hread _ _, fields_eq label flow source dest, ?_⟩
    intro label' source' dest' hop
    obtain ⟨hnames, hfilter⟩ := attributes_of_nextHop flow hop
    refine ⟨_, _, rfl, hread _ _, ?_, ?_⟩
    · simp only [fields, List.map_append, hnames]
      rfl
    · simp only [fields, List.filter_append, hfilter]
      rfl

theorem logfmt_read_back_forged :
    let fields := [("", " a=\"1"), ("hop", "\\n b=2\n"), ("hop", "")]
    (∀ p ∈ fields, ∀ c ∈ p.1.toList, c ≠ ' ' ∧ c ≠ '=' ∧ c ≠ '"') ∧
      readFields (writeFields fields) = some fields := by
  intro fields
  have hkeys : ∀ p ∈ fields, ∀ c ∈ p.1.toList, c ≠ ' ' ∧ c ≠ '=' ∧ c ≠ '"' := by
    simp [fields]
  exact ⟨hkeys, logfmt_read_back.1 fields hkeys⟩

end FlowLines.Layout
