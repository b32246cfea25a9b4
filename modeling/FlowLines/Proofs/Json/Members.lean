import FlowLines.Proofs.Json.Takes

/-! Objects and lists whose parts a reader takes are taken whole. -/

namespace FlowLines.Json

abbrev Pair := List Char × List Char

def writePair (m : Pair) : List Char := writeString m.1 ++ ':' :: m.2

theorem writePair_append (key text rest : List Char) : writePair (key, text) ++ rest =
    '"' :: (key.flatMap writeChar ++ '"' :: ':' :: (text ++ rest)) := by
  rw [writePair, List.append_assoc, writeString_append, List.cons_append]

def pairs (o : Object) : List Pair := o.map fun m => (m.1.toList, m.2.write)

theorem writeObject_append (o : Object) (rest : List Char) : writeObject o ++ rest =
    '{' :: ([','].intercalate ((pairs o).map writePair) ++ '}' :: rest) := by
  have hpairs : o.map writeMember = (pairs o).map writePair := by
    rw [pairs, List.map_map]
    rfl
  rw [writeObject, hpairs, List.cons_append, List.cons_append, List.append_assoc,
    List.singleton_append]

/-- Members in the order of a text, with what is known before the first and after the last. -/
inductive Absorbs {σ : Type} (members : Members σ) : List Pair → σ → σ → Prop
  | nil (known : σ) : Absorbs members [] known known
  | cons {key text : List Char} {ms : List Pair} {known next last : σ} {read : Reader σ} :
      members key known = .ok read → Takes read text next → Absorbs members ms next last →
        Absorbs members ((key, text) :: ms) known last

theorem intercalate_cons (x : List Char) (xs : List (List Char)) :
    [','].intercalate (x :: xs) = x ++ xs.flatMap (',' :: ·) := by
  induction xs generalizing x with
  | nil => simp
  | cons y ys ih => simp [ih]

theorem length_le_flatMap_comma {α : Type} (f : α → List Char) (xs : List α) :
    xs.length ≤ (xs.flatMap fun x => ',' :: f x).length := by
  induction xs with
  | nil => exact Nat.le_refl 0
  | cons x xs ih =>
    rw [List.flatMap_cons, List.length_append, List.length_cons, List.length_cons]
    omega

theorem delimited_flatMap_comma {α : Type} (f : α → List Char) (xs : List α) {rest : List Char}
    (h : Delimited rest) : Delimited ((xs.flatMap fun x => ',' :: f x) ++ rest) := by
  cases xs with
  | nil => exact h
  | cons x xs => exact .inl rfl

theorem delimited_brace (rest : List Char) : Delimited ('}' :: rest) := .inr (.inr rfl)

theorem delimited_bracket (rest : List Char) : Delimited (']' :: rest) := .inr (.inl rfl)

theorem colon_cons (rest : List Char) : colon (':' :: rest) = .ok rest := by
  simp [colon, skipSpace, isSpace]

section

variable {σ : Type} {members : Members σ}

theorem readMembersLoop_pair {key text rest s : List Char} {b : Char} {bound : List Char}
    {first : Bool} {known next : σ} {read : Reader σ}
    (hs : nextKey first s = .ok (.member (key.flatMap writeChar ++ '"' :: ':' :: (text ++ rest))))
    (hkey : members key known = .ok read) (htake : Takes read text next) (hr : Delimited rest) :
    readMembersLoop members (b :: bound) first known s =
      readMembersLoop members bound false next rest := by
  simp only [readMembersLoop, hs, ok_bind, readString_write, hkey, colon_cons,
    htake.reads rest hr]

theorem readMembersLoop_absorbs {ms : List Pair} {known last : σ}
    (h : Absorbs members ms known last) (rest : List Char) :
    ∀ bound : List Char, ms.length < bound.length →
      readMembersLoop members bound false known
        (ms.flatMap (fun m => ',' :: writePair m) ++ '}' :: rest) = .ok (last, rest) := by
  induction h with
  | nil known =>
    intro bound hb
    cases bound with
    | nil => cases hb
    | cons b bound => simp [readMembersLoop, nextKey, skipSpace, isSpace]
  | @cons key text ms known next last read hkey htake h ih =>
    intro bound hb
    cases bound with
    | nil => cases hb
    | cons b bound =>
      have hnext (r : List Char) : nextKey false (',' :: '"' :: r) = .ok (.member r) := by
        simp [nextKey, skipSpace, isSpace]
      have hd := delimited_flatMap_comma writePair ms (delimited_brace rest)
      rw [← ih bound (Nat.lt_of_succ_lt_succ hb)]
      apply readMembersLoop_pair _ hkey htake hd
      rw [List.flatMap_cons, List.append_assoc, List.cons_append, writePair_append, hnext]

theorem readMembers_absorbs {ms : List Pair} {start last : σ} (h : Absorbs members ms start last)
    (rest : List Char) :
    readMembers members start ([','].intercalate (ms.map writePair) ++ '}' :: rest) =
      .ok (last, rest) := by
  cases h with
  | nil => simp [readMembers, readMembersLoop, nextKey, skipSpace, isSpace]
  | @cons key text ms _ next _ read hkey htake h =>
    have hd := delimited_flatMap_comma writePair ms (delimited_brace rest)
    have hnext (r : List Char) : nextKey true ('"' :: r) = .ok (.member r) := by
      simp [nextKey, skipSpace, isSpace]
    have hlen := length_le_flatMap_comma writePair ms
    rw [List.map_cons, intercalate_cons, List.flatMap_map, List.append_assoc, writePair_append,
      readMembers, readMembersLoop_pair (hnext _) hkey htake hd]
    apply readMembersLoop_absorbs h
    simp only [List.length_append, List.length_cons]
    omega

end

section

variable {α : Type} {read : Reader α} {write : α → List Char}

theorem nextElement_append {text : List Char} (h : Starts text) (rest : List Char) :
    nextElement true (text ++ rest) = .ok (.member (text ++ rest)) := by
  have hs := h.skipSpace rest
  cases text with
  | nil => exact h.elim
  | cons c text =>
    rw [List.cons_append] at hs ⊢
    unfold nextElement
    rw [hs]
    split
    · next heq => cases heq
    · next heq =>
      cases heq
      exact absurd rfl h.2.2
    · next heq =>
      cases heq
      rfl

theorem nextElement_comma_append {text : List Char} (h : Starts text) (rest : List Char) :
    nextElement false (',' :: (text ++ rest)) = .ok (.member (text ++ rest)) := by
  have hs := h.skipSpace rest
  have hcomma (r : List Char) : skipSpace (',' :: r) = ',' :: r := rfl
  cases text with
  | nil => exact h.elim
  | cons c text =>
    rw [List.cons_append] at hs ⊢
    have hbracket : c ≠ ']' := h.2.2
    simp [nextElement, hcomma, hs, hbracket]

theorem readElementsLoop_element {text rest s : List Char} {b : Char} {bound : List Char}
    {first : Bool} {done : List α} {x : α} (hs : nextElement first s = .ok (.member (text ++ rest)))
    (htake : Takes read text x) (hr : Delimited rest) :
    readElementsLoop read (b :: bound) first done s =
      readElementsLoop read bound false (x :: done) rest := by
  simp only [readElementsLoop, hs, ok_bind, htake.reads rest hr]

theorem readElementsLoop_write {xs : List α} (h : ∀ x ∈ xs, Takes read (write x) x)
    (rest : List Char) :
    ∀ (bound : List Char) (done : List α), xs.length < bound.length →
      readElementsLoop read bound false done
        (xs.flatMap (fun x => ',' :: write x) ++ ']' :: rest) = .ok (done.reverse ++ xs, rest) := by
  induction xs with
  | nil =>
    intro bound done hb
    cases bound with
    | nil => cases hb
    | cons b bound => simp [readElementsLoop, nextElement, skipSpace, isSpace]
  | cons x xs ih =>
    intro bound done hb
    cases bound with
    | nil => cases hb
    | cons b bound =>
      have hx := h x List.mem_cons_self
      have hd := delimited_flatMap_comma write xs (delimited_bracket rest)
      have htail := ih (fun y hy => h y (List.mem_cons_of_mem x hy)) bound (x :: done)
        (Nat.lt_of_succ_lt_succ hb)
      rw [List.flatMap_cons, List.append_assoc, List.cons_append,
        readElementsLoop_element (nextElement_comma_append hx.starts _) hx hd, htail,
        List.reverse_cons, List.append_assoc, List.singleton_append]

theorem takes_readList {xs : List α} (h : ∀ x ∈ xs, Takes read (write x) x) :
    Takes (readList read) ('[' :: [','].intercalate (xs.map write) ++ [']']) xs where
  starts := ⟨rfl, by decide, by decide⟩
  reads rest _ := by
    have hspace (r : List Char) : skipSpace ('[' :: r) = '[' :: r := rfl
    simp only [List.append_assoc, List.cons_append, List.nil_append, readList, hspace]
    cases xs with
    | nil => simp [readElementsLoop, nextElement, skipSpace, isSpace]
    | cons x xs =>
      have hx := h x List.mem_cons_self
      have hd := delimited_flatMap_comma write xs (delimited_bracket rest)
      have hlen := length_le_flatMap_comma write xs
      have hloop (bound : List Char) := readElementsLoop_write
        (fun y hy => h y (List.mem_cons_of_mem x hy)) rest bound [x]
      rw [List.map_cons, intercalate_cons, List.flatMap_map, List.append_assoc]
      cases ht : write x with
      | nil =>
        have hstarts := hx.starts
        rw [ht] at hstarts
        exact hstarts.elim
      | cons c text =>
        have hnext := nextElement_append hx.starts
        rw [ht] at hx hnext
        simp only [List.cons_append] at hnext ⊢
        rw [readElementsLoop_element (hnext _) hx hd, hloop]
        · rfl
        · simp only [List.length_append, List.length_cons]
          omega

end

end FlowLines.Json
