import FlowLines.Json.Decode
import FlowLines.Proofs.Json.Takes
import Mathlib.Data.List.DropRight

/-! The grammar of JSON, apart from any reader.  A text is a tree whose tokens stand in it in their
order, with as many spaces before each of them as one likes. -/

namespace FlowLines.Json

open FlowLines.Text (isDigit ofDigits ofBase?)

/-- A part of a string: a character as it is, an escape of one letter, or four digits that are a
number of 16 bits. -/
inductive Piece
  | plain (c : Char) (h : c ≠ '"' ∧ c ≠ '\\' ∧ ¬ c.toNat < 0x20)
  | letter (c d : Char) (h : simpleEscape? c = some d)
  | unit (digits : List Char) (n : Nat) (h : digits.length = 4 ∧ ofBase? 16 digits = some n)

def Piece.write : Piece → List Char
  | .plain c _ => [c]
  | .letter c _ _ => ['\\', c]
  | .unit digits _ _ => '\\' :: 'u' :: digits

abbrev Literal := List Piece

namespace Literal

def body (l : Literal) : List Char := l.flatMap Piece.write

def write (l : Literal) : List Char := '"' :: (l.body ++ ['"'])

/-- What a string says.  Surrogates say something in pairs only. -/
def text? : Literal → Option (List Char)
  | [] => some []
  | .plain c _ :: l => (text? l).map (c :: ·)
  | .letter _ d _ :: l => (text? l).map (d :: ·)
  | .unit _ n _ :: l =>
    if isLowSurrogate n then none
    else if !isHighSurrogate n then (text? l).map (Char.ofNat n :: ·)
    else match l with
      | .unit _ m _ :: l =>
        if isLowSurrogate m then
          (text? l).map (Char.ofNat ((n - 0xD800) * 0x400 + (m - 0xDC00) + 0x10000) :: ·)
        else none
      | _ => none

end Literal

def Digits (s : List Char) : Prop := s ≠ [] ∧ ∀ c ∈ s, isDigit c

inductive Whole : List Char → Prop
  | zero : Whole ['0']
  | digits {c : Char} {s : List Char} : c ≠ '0' → Digits (c :: s) → Whole (c :: s)

inductive Fraction : List Char → Prop
  | none : Fraction []
  | digits {s : List Char} : Digits s → Fraction ('.' :: s)

inductive Exponent : List Char → Prop
  | none : Exponent []
  | digits {e : Char} {sign s : List Char} : e = 'e' ∨ e = 'E' →
      sign = [] ∨ sign = ['+'] ∨ sign = ['-'] → Digits s → Exponent (e :: (sign ++ s))

structure Numeral where
  negative : Bool
  whole : List Char
  fraction : List Char
  exponent : List Char
  isWhole : Whole whole
  isFraction : Fraction fraction
  isExponent : Exponent exponent

namespace Numeral

def unsigned (n : Numeral) : List Char := n.whole ++ (n.fraction ++ n.exponent)

def write (n : Numeral) : List Char := if n.negative then '-' :: n.unsigned else n.unsigned

def natural? (n : Numeral) : Option Nat :=
  if n.negative = false ∧ n.fraction = [] ∧ n.exponent = [] then some (ofDigits n.whole) else none

end Numeral

inductive Tree
  | null
  | boolean (b : Bool)
  | number (n : Numeral)
  | text (l : Literal)
  | list (ts : List Tree)
  | object (ms : List (Literal × Tree))

abbrev Member := Literal × Tree

theorem Tree.sizeOf_lt_list {t : Tree} {ts : List Tree} (h : t ∈ ts) :
    sizeOf t < sizeOf (Tree.list ts) := by
  have := List.sizeOf_lt_of_mem h
  simp only [Tree.list.sizeOf_spec]
  omega

theorem Tree.sizeOf_lt_object {m : Member} {ms : List Member} (h : m ∈ ms) :
    sizeOf m.2 < sizeOf (Tree.object ms) := by
  have := List.sizeOf_lt_of_mem h
  cases m
  simp only [Prod.mk.sizeOf_spec] at this
  simp only [Tree.object.sizeOf_spec]
  omega

def Member.key? (m : Member) : Option (List Char) := Literal.text? m.1

/-- The tokens between brackets, and the closing one. -/
def upTo (close : Char) : (first : Bool) → List (List (List Char)) → List (List Char)
  | _, [] => [[close]]
  | true, item :: items => item ++ upTo close false items
  | false, item :: items => [','] :: (item ++ upTo close false items)

def Tree.tokens : Tree → List (List Char)
  | .null => ["null".toList]
  | .boolean true => ["true".toList]
  | .boolean false => ["false".toList]
  | .number n => [n.write]
  | .text l => [l.write]
  | .list ts => ['['] :: upTo ']' true (ts.map fun t => t.tokens)
  | .object ms => ['{'] :: upTo '}' true (ms.map fun m => m.1.write :: [':'] :: m.2.tokens)
termination_by t => sizeOf t
decreasing_by
  · exact Tree.sizeOf_lt_list ‹_›
  · exact Tree.sizeOf_lt_object ‹_›

def Member.tokens (m : Member) : List (List Char) := Literal.write m.1 :: [':'] :: m.2.tokens

/-- Tokens in their order at the front of a text, and what is left of it. -/
inductive Lays : List (List Char) → List Char → List Char → Prop
  | nil (s : List Char) : Lays [] s s
  | cons {gap token s rest : List Char} {tokens : List (List Char)} : (∀ c ∈ gap, isSpace c) →
      Lays tokens s rest → Lays (token :: tokens) (gap ++ (token ++ s)) rest

def Tree.Spells (t : Tree) (text : List Char) : Prop :=
  ∃ rest, Lays t.tokens text rest ∧ ∀ c ∈ rest, isSpace c

theorem Tree.induct {P : Tree → Prop} (null : P .null) (boolean : ∀ b, P (.boolean b))
    (number : ∀ n, P (.number n)) (text : ∀ l, P (.text l))
    (list : ∀ ts, (∀ t ∈ ts, P t) → P (.list ts))
    (object : ∀ ms, (∀ m ∈ ms, P m.2) → P (.object ms)) : ∀ t, P t
  | .null => null
  | .boolean b => boolean b
  | .number n => number n
  | .text l => text l
  | .list ts => list ts fun t _ => Tree.induct null boolean number text list object t
  | .object ms => object ms fun m _ => Tree.induct null boolean number text list object m.2
termination_by t => sizeOf t
decreasing_by
  · exact Tree.sizeOf_lt_list ‹_›
  · exact Tree.sizeOf_lt_object ‹_›

def Ends (s : List Char) : Prop := Delimited (skipSpace s)

theorem skipSpace_gap {gap : List Char} (h : ∀ c ∈ gap, isSpace c) (s : List Char) :
    skipSpace (gap ++ s) = skipSpace s := List.dropWhile_append_of_pos h

theorem skipSpace_cons {c : Char} (h : isSpace c = false) (s : List Char) :
    skipSpace (c :: s) = c :: s := by
  simp [skipSpace, h]

theorem exists_gap (s : List Char) : ∃ gap, (∀ c ∈ gap, isSpace c) ∧ s = gap ++ skipSpace s :=
  ⟨s.takeWhile isSpace, fun _ hc => List.mem_takeWhile_imp hc,
    (List.takeWhile_append_dropWhile).symm⟩

theorem length_lt_of_skipSpace {c : Char} {s r : List Char} (h : skipSpace s = c :: r) :
    r.length < s.length := by
  obtain ⟨gap, -, hs⟩ := exists_gap s
  rw [hs, h, List.length_append, List.length_cons]
  omega

theorem skipSpace_eq_nil_iff {s : List Char} : skipSpace s = [] ↔ ∀ c ∈ s, isSpace c :=
  List.dropWhile_eq_nil_iff

namespace Lays

variable {a b : List (List Char)} {s t r : List Char}

theorem append (h : Lays a s t) (h' : Lays b t r) : Lays (a ++ b) s r := by
  induction h with
  | nil s => exact h'
  | cons gap _ ih => exact .cons gap (ih h')

theorem of_append (h : Lays (a ++ b) s r) : ∃ t, Lays a s t ∧ Lays b t r := by
  induction a generalizing s with
  | nil => exact ⟨s, .nil s, h⟩
  | cons token a ih =>
    cases h with
    | cons gap h =>
      obtain ⟨t, ha, hb⟩ := ih h
      exact ⟨t, .cons gap ha, hb⟩

theorem exists_front (h : Lays a s r) :
    ∃ front, s = front ++ r ∧ ∀ r', Lays a (front ++ r') r' := by
  induction h with
  | nil s => exact ⟨[], rfl, .nil⟩
  | @cons gap token s rest tokens hgap _ ih =>
    obtain ⟨front, rfl, hfront⟩ := ih
    refine ⟨gap ++ (token ++ front), by simp, fun r' => ?_⟩
    have h : Lays (token :: tokens) (gap ++ (token ++ (front ++ r'))) r' := .cons hgap (hfront r')
    simpa using h

theorem length_le (h : Lays a s r) : r.length ≤ s.length := by
  obtain ⟨front, rfl, -⟩ := h.exists_front
  simp

theorem cons_iff {c : Char} {token : List Char} (hc : isSpace c = false) :
    Lays ((c :: token) :: a) s r ↔ ∃ t, skipSpace s = c :: (token ++ t) ∧ Lays a t r := by
  constructor
  · intro h
    cases h with
    | @cons gap _ t _ _ hgap h =>
      refine ⟨t, ?_, h⟩
      rw [skipSpace_gap hgap]
      exact skipSpace_cons hc _
  · rintro ⟨t, hs, h⟩
    obtain ⟨gap, hgap, hs'⟩ := exists_gap s
    rw [hs', hs, ← List.cons_append]
    exact .cons hgap h

theorem singleton_iff {c : Char} {token : List Char} (hc : isSpace c = false) :
    Lays [c :: token] s r ↔ skipSpace s = c :: (token ++ r) := by
  rw [cons_iff hc]
  constructor
  · rintro ⟨t, hs, h⟩
    cases h
    exact hs
  · intro hs
    exact ⟨r, hs, .nil r⟩

theorem mark_cons_iff {c : Char} (hc : isSpace c = false) :
    Lays ([c] :: a) s r ↔ ∃ t, skipSpace s = c :: t ∧ Lays a t r := cons_iff hc

theorem mark_iff {c : Char} (hc : isSpace c = false) :
    Lays [[c]] s r ↔ skipSpace s = c :: r := singleton_iff hc

end Lays

def takeTokens : List (List Char) → List Char → Option (List Char)
  | [], s => some s
  | token :: tokens, s => ((skipSpace s).dropPrefix? token).bind (takeTokens tokens)

theorem lays_of_takeTokens {tokens : List (List Char)} {s r : List Char}
    (h : takeTokens tokens s = some r) : Lays tokens s r := by
  induction tokens generalizing s with
  | nil =>
    cases h
    exact .nil _
  | cons token tokens ih =>
    obtain ⟨t, ht, h⟩ := Option.bind_eq_some_iff.1 h
    obtain ⟨gap, hgap, hs⟩ := exists_gap s
    obtain ⟨token', hsplit, heq⟩ := List.dropPrefix?_eq_some_iff.1 ht
    rw [beq_iff_eq] at heq
    rw [hs, hsplit, heq]
    exact .cons hgap (ih h)

end FlowLines.Json
