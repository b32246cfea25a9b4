import FlowLines.Proofs.Json.Skip

/-! Readers as functions of trees.  What a reader makes of a text is what its function makes of the
tree that the text begins with. -/

namespace FlowLines.Json

open FlowLines.Text (isDigit ofDigits ne_of_isDigit)

/-- The reader has the value of each tree, and reads nothing that is no tree with a value. -/
structure Reads {α : Type} (read : Reader α) (of? : Tree → Option α) : Prop where
  of_lays : ∀ {t : Tree} {s r : List Char}, Lays t.tokens s r → Ends r →
    (read s).toOption = (of? t).map (·, r)
  exists_tree : ∀ {s r : List Char} {x : α}, read s = .ok (x, r) →
    ∃ t : Tree, Lays t.tokens s r ∧ of? t = some x

namespace Tree

def text? : Tree → Option (List Char)
  | .text l => l.text?
  | _ => none

def natural? : Tree → Option Nat
  | .number n => n.natural?
  | _ => none

theorem Begins.of_null {t : Tree} (h : t.Begins 'n') : t = .null := by
  cases t with
  | null => rfl
  | boolean b => cases b <;> cases h
  | number n => rcases h with h | h <;> cases h
  | _ => cases h

theorem Begins.of_quote {t : Tree} (h : t.Begins '"') : ∃ l, t = .text l := by
  cases t with
  | text l => exact ⟨l, rfl⟩
  | boolean b => cases b <;> cases h
  | number n => rcases h with h | h <;> cases h
  | _ => cases h

theorem Begins.of_bracket {t : Tree} (h : t.Begins '[') : ∃ ts, t = .list ts := by
  cases t with
  | list ts => exact ⟨ts, rfl⟩
  | boolean b => cases b <;> cases h
  | number n => rcases h with h | h <;> cases h
  | _ => cases h

theorem Begins.of_brace {t : Tree} (h : t.Begins '{') : ∃ ms, t = .object ms := by
  cases t with
  | object ms => exact ⟨ms, rfl⟩
  | boolean b => cases b <;> cases h
  | number n => rcases h with h | h <;> cases h
  | _ => cases h

theorem Begins.of_isDigit {t : Tree} {c : Char} (h : t.Begins c) (hc : isDigit c) :
    ∃ n, t = .number n := by
  cases t with
  | number n => exact ⟨n, rfl⟩
  | boolean b => cases b <;> cases h <;> cases hc
  | _ => cases h; cases hc

end Tree

theorem Lays.text {l : Literal} {s r : List Char} :
    Lays (Tree.text l).tokens s r ↔ skipSpace s = '"' :: (l.body ++ '"' :: r) := by
  rw [token_iff (t := .text l) rfl, Literal.write, List.cons_append, List.append_assoc]
  rfl

theorem readText_none {wanted : String} {c : Char} {s s' : List Char} (hs : skipSpace s = c :: s')
    (hc : c ≠ '"') : (readText wanted s).toOption = none := by
  unfold readText
  rw [hs]
  split
  · rfl
  · next heq => exact absurd (List.cons.inj heq).1 hc
  · rfl

theorem reads_readText (wanted : String) : Reads (readText wanted) Tree.text? where
  of_lays {t s r} h hr := by
    obtain ⟨c, s', hs, hc⟩ := h.begins
    by_cases hquote : c = '"'
    · obtain ⟨l, rfl⟩ := (hquote ▸ hc).of_quote
      have hread := readString_body l r
      rw [Lays.text] at h
      simpa only [readText, h, Tree.text?] using hread
    · rw [readText_none hs hquote]
      cases t with
      | text l => exact absurd hc hquote
      | _ => rfl
  exists_tree {s r x} h := by
    unfold readText at h
    split at h
    · cases h
    · next s' hs =>
      obtain ⟨l, hl, ht⟩ := readString_ok h
      exact ⟨.text l, Lays.text.2 (by rw [hs, hl]), ht⟩
    · cases h

theorem readNatural_ok {bound : Nat} {wanted : String} {s r : List Char} {n : Nat}
    (h : readNatural bound wanted s = .ok (n, r)) :
    n < bound ∧ NoMore r ∧ ∃ w, Whole w ∧ skipSpace s = w ++ r ∧ ofDigits w = n := by
  -- Whatever the sign, the value is that of a number that was read, and below the bound.
  have hread : ∃ (positive : Bool) (s' : List Char), readNumber positive s' = .ok (.natural n, r) ∧
      n < bound ∧ (positive = true → skipSpace s = s') := by
    unfold readNatural at h
    extract_lets visit at h
    have hvisit {x : Number × List Char} (hx : visit x = .ok (n, r)) :
        x = (.natural n, r) ∧ n < bound := by
      obtain ⟨m | m | f, r'⟩ := x
      · by_cases hb : m < bound
        · simp only [visit, if_pos hb] at hx
          cases hx
          exact ⟨rfl, hb⟩
        · simp only [visit, if_neg hb] at hx
          cases hx
      · cases hx
      · cases hx
    split at h
    · cases h
    · next s' _ =>
      obtain ⟨x, hx, h⟩ := bind_eq_ok h
      obtain ⟨rfl, hb⟩ := hvisit h
      exact ⟨false, s', hx, hb, nofun⟩
    · next c s' _ hs =>
      split at h
      · obtain ⟨x, hx, h⟩ := bind_eq_ok h
        obtain ⟨rfl, hb⟩ := hvisit h
        exact ⟨true, c :: s', hx, hb, fun _ => hs⟩
      · cases h
  obtain ⟨positive, s', hread, hb, hs⟩ := hread
  obtain ⟨hpositive, hr, w, hw, hsplit, hvalue⟩ := readNumber_natural hread
  exact ⟨hb, hr, w, hw, (hs hpositive).trans hsplit, hvalue⟩

theorem readNatural_whole {bound : Nat} (wanted : String) {s w r : List Char} (hw : Whole w)
    (hs : skipSpace s = w ++ r) (hr : NoMore r) (hb : ofDigits w < bound)
    (hsize : bound ≤ UInt64.size) : readNatural bound wanted s = .ok (ofDigits w, r) := by
  have hread := readNumber_whole hw hr (Nat.lt_of_lt_of_le hb hsize)
  obtain ⟨c, ds, rfl, hc, -⟩ := hw.exists_cons
  rw [List.cons_append] at hs hread
  simp only [readNatural, hs]
  split
  · next heq => cases heq
  · next heq => exact absurd (List.cons.inj heq).1 (ne_of_isDigit hc rfl)
  · next heq =>
    cases heq
    rw [if_pos hc, hread, ok_bind]
    exact if_pos hb

theorem Lays.number {n : Numeral} {s w r r' : List Char} (h : Lays (Tree.number n).tokens s r)
    (hr : NoMore r) (hw : Whole w) (hs : skipSpace s = w ++ r') (hr' : NoMore r') :
    n.natural? = some (ofDigits w) ∧ r = r' := by
  rw [token_iff (t := .number n) rfl, hs, Numeral.write] at h
  split at h
  · obtain ⟨c, ds, rfl, hc, -⟩ := hw.exists_cons
    exact absurd (List.cons.inj h).1 (ne_of_isDigit hc rfl)
  · next hneg =>
    obtain ⟨hfraction, hexponent, rfl, hrest⟩ := n.eq_of_whole h.symm hw hr hr'
    exact ⟨if_pos ⟨eq_false_of_ne_true hneg, hfraction, hexponent⟩, hrest⟩

theorem Numeral.eq_whole_of_natural? {n : Numeral} {k : Nat} (h : n.natural? = some k) :
    n.write = n.whole ∧ ofDigits n.whole = k := by
  unfold natural? at h
  split at h
  · next hn =>
    obtain ⟨hneg, hfraction, hexponent⟩ := hn
    refine ⟨?_, Option.some.inj h⟩
    simp [write, unsigned, hneg, hfraction, hexponent]
  · cases h

theorem reads_readNatural {bound : Nat} (wanted : String) (hb : bound ≤ UInt64.size) :
    Reads (readNatural bound wanted) fun t => t.natural?.filter (· < bound) where
  of_lays {t s r} h hr := by
    cases hread : readNatural bound wanted s with
    | ok x =>
      obtain ⟨k, r'⟩ := x
      obtain ⟨hlt, hr', w, hw, hs, rfl⟩ := readNatural_ok hread
      obtain ⟨c, ds, hcons, hc, -⟩ := hw.exists_cons
      obtain ⟨c', s', hs', hbegins⟩ := h.begins
      rw [hs', hcons] at hs
      obtain ⟨n, rfl⟩ := hbegins.of_isDigit ((List.cons.inj hs).1 ▸ hc)
      obtain ⟨hn, rfl⟩ := h.number hr.noMore hw (by rw [hs', hs, hcons]) hr'
      simp [Tree.natural?, hn, Option.filter, hlt]
    | error stop =>
      cases hk : t.natural?.filter (· < bound) with
      | none => rfl
      | some k =>
        obtain ⟨hk, hlt⟩ := Option.filter_eq_some_iff.1 hk
        cases t with
        | number n =>
          obtain ⟨hwrite, hvalue⟩ := Numeral.eq_whole_of_natural? hk
          rw [Lays.token_iff (t := .number n) rfl, hwrite] at h
          have hlt' : ofDigits n.whole < bound := by simpa [hvalue] using hlt
          rw [readNatural_whole wanted n.isWhole h hr.noMore hlt' hb] at hread
          cases hread
        | _ => cases hk
  exists_tree {s r n} h := by
    obtain ⟨hlt, hr, w, hw, hs, rfl⟩ := readNatural_ok h
    refine ⟨.number ⟨false, w, [], [], hw, .none, .none⟩, ?_, ?_⟩
    · rw [Lays.token_iff rfl]
      simp [Numeral.write, Numeral.unsigned, hs]
    · simp [Tree.natural?, Numeral.natural?, hlt]

variable {α β σ : Type}

theorem Reads.map {read : Reader α} {of? : Tree → Option α} (h : Reads read of?) (f : α → β) :
    Reads (mapped f read) fun t => (of? t).map f where
  of_lays {t s r} ht hr := by
    rw [mapped, toOption_map, h.of_lays ht hr, Option.map_map, Option.map_map]
    rfl
  exists_tree {s r y} hs := by
    obtain ⟨⟨x, r'⟩, hx, heq⟩ := map_eq_ok hs
    cases heq
    obtain ⟨t, ht, hvalue⟩ := h.exists_tree hx
    exact ⟨t, ht, by rw [hvalue]; rfl⟩

theorem reads_passing (x : α) : Reads (passing x) fun _ => some x where
  of_lays {t s r} ht hr := by
    rw [passing, skipValue_of_lays ht hr]
    rfl
  exists_tree {s r y} hs := by
    obtain ⟨r', hskip, heq⟩ := map_eq_ok hs
    cases heq
    obtain ⟨t, ht⟩ := skipValue_ok hskip
    exact ⟨t, ht, rfl⟩

def checked {ε : Type} (check : α → Except ε β) (stop : ε → List Char → Stop) (read : Reader α) :
    Reader β := fun s => do
  let (x, r) ← read s
  match check x with
  | .ok y => .ok (y, r)
  | .error e => .error (stop e r)

theorem Reads.checked {ε : Type} {read : Reader α} {of? : Tree → Option α} (h : Reads read of?)
    (check : α → Except ε β) (stop : ε → List Char → Stop) :
    Reads (checked check stop read) fun t => (of? t).bind fun x => (check x).toOption where
  of_lays {t s r} ht hr := by
    rw [Json.checked, toOption_bind, h.of_lays ht hr]
    cases of? t with
    | none => rfl
    | some x =>
      simp only [Option.map_some, Option.bind_some]
      cases check x <;> rfl
  exists_tree {s r y} hs := by
    obtain ⟨⟨x, r'⟩, hx, hs⟩ := bind_eq_ok hs
    obtain ⟨t, ht, hvalue⟩ := h.exists_tree hx
    dsimp only at hs
    cases hcheck : check x with
    | error e =>
      rw [hcheck] at hs
      cases hs
    | ok z =>
      rw [hcheck] at hs
      cases hs
      exact ⟨t, ht, by rw [hvalue, Option.bind_some, hcheck]; rfl⟩

def Tree.optional (of? : Tree → Option α) : Tree → Option (Option α)
  | .null => some none
  | t => (of? t).map some

theorem Tree.optional_of_ne {of? : Tree → Option α} {t : Tree} (h : t ≠ .null) :
    t.optional of? = (of? t).map some := by
  cases t with
  | null => exact absurd rfl h
  | _ => rfl

theorem Reads.optional {read : Reader α} {of? : Tree → Option α} (h : Reads read of?) :
    Reads (readOptional read) (Tree.optional of?) where
  of_lays {t s r} ht hr := by
    obtain ⟨c, s', hs, hc⟩ := ht.begins
    by_cases hnull : c = 'n'
    · cases (hnull ▸ hc).of_null
      rw [Lays.token_iff (t := .null) rfl] at ht
      have hword :
          readOptional read s = (none, ·) <$> keyword "ull".toList ("ull".toList ++ r) := by
        unfold readOptional
        rw [ht]
        rfl
      rw [hword, keyword_append]
      rfl
    · have hne : t ≠ .null := by
        rintro rfl
        exact hnull hc
      have hread := h.of_lays (Lays.tree_behind_iff.2 ht) hr
      rw [Tree.optional_of_ne hne]
      unfold readOptional
      rw [hs] at hread ⊢
      split
      · next heq => exact absurd (List.cons.inj heq).1 hnull
      · rw [toOption_map, hread, Option.map_map, Option.map_map]
        rfl
  exists_tree {s r x} hs := by
    unfold readOptional at hs
    split at hs
    · next s' heq =>
      obtain ⟨r', hword, hx⟩ := map_eq_ok hs
      cases hx
      refine ⟨.null, (Lays.token_iff rfl).2 ?_, rfl⟩
      rw [heq, keyword_ok hword]
      rfl
    · next hne =>
      obtain ⟨⟨y, r'⟩, hy, hx⟩ := map_eq_ok hs
      cases hx
      obtain ⟨t, ht, hvalue⟩ := h.exists_tree hy
      have hnull : t ≠ .null := by
        rintro rfl
        rw [Lays.token_iff (t := .null) rfl, skipSpace_skipSpace] at ht
        exact hne _ ht
      refine ⟨t, Lays.tree_behind_iff.1 ht, ?_⟩
      rw [Tree.optional_of_ne hnull, hvalue]
      rfl

end FlowLines.Json
