import FlowLines.Proofs.Json.Literal
import FlowLines.Proofs.Json.Numeral

/-! What is passed over is a tree, and every tree is passed over. -/

namespace FlowLines.Json

open FlowLines.Text (isDigit)

def Tree.Begins : Tree → Char → Prop
  | .null, c => c = 'n'
  | .boolean b, c => c = if b then 't' else 'f'
  | .number _, c => c = '-' ∨ isDigit c
  | .text _, c => c = '"'
  | .list _, c => c = '['
  | .object _, c => c = '{'

theorem Tree.exists_begins (t : Tree) :
    ∃ c token tokens, t.tokens = (c :: token) :: tokens ∧ t.Begins c := by
  cases t with
  | null => exact ⟨_, _, _, by rw [tokens]; rfl, rfl⟩
  | boolean b => cases b <;> exact ⟨_, _, _, by rw [tokens]; rfl, rfl⟩
  | number n =>
    obtain ⟨c, ds, hs, hc, -⟩ := n.isWhole.exists_cons
    by_cases h : n.negative
    · exact ⟨'-', n.unsigned, [], by rw [tokens, Numeral.write, if_pos h], .inl rfl⟩
    · refine ⟨c, ds ++ (n.fraction ++ n.exponent), [], ?_, .inr hc⟩
      rw [tokens, Numeral.write, if_neg h, Numeral.unsigned, hs]
      rfl
  | text l => exact ⟨_, _, _, by rw [tokens]; rfl, rfl⟩
  | list ts => exact ⟨_, _, _, by rw [tokens], rfl⟩
  | object ms => exact ⟨_, _, _, by rw [tokens], rfl⟩

theorem Tree.Begins.apart {t : Tree} {c : Char} (h : t.Begins c) :
    isSpace c = false ∧ c ≠ ']' ∧ c ≠ '}' ∧ c ≠ ',' := by
  have hdigit (hc : isDigit c) : isSpace c = false ∧ c ≠ ']' ∧ c ≠ '}' ∧ c ≠ ',' := by
    have hne {d : Char} : isDigit d = false → c ≠ d := Text.ne_of_isDigit hc
    refine ⟨?_, hne rfl, hne rfl, hne rfl⟩
    simp [isSpace, hne (d := ' ') rfl, hne (d := '\n') rfl, hne (d := '\t') rfl,
      hne (d := '\r') rfl]
  cases t with
  | null => cases h; decide
  | boolean b => cases b <;> cases h <;> decide
  | number n =>
    rcases h with rfl | h
    · decide
    · exact hdigit h
  | text l => cases h; decide
  | list ts => cases h; decide
  | object ms => cases h; decide

theorem Lays.begins {t : Tree} {s r : List Char} (h : Lays t.tokens s r) :
    ∃ c s', skipSpace s = c :: s' ∧ t.Begins c := by
  obtain ⟨c, token, tokens, ht, hc⟩ := t.exists_begins
  rw [ht, Lays.cons_iff hc.apart.1] at h
  obtain ⟨s', hs, -⟩ := h
  exact ⟨c, token ++ s', hs, hc⟩

theorem Lays.length_lt {t : Tree} {s r : List Char} (h : Lays t.tokens s r) :
    r.length < s.length := by
  obtain ⟨c, token, tokens, ht, hc⟩ := t.exists_begins
  rw [ht, Lays.cons_iff hc.apart.1] at h
  obtain ⟨s', hs, h⟩ := h
  have hlt := length_lt_of_skipSpace hs
  have hle := h.length_le
  rw [List.length_append] at hlt
  omega

theorem skipSpace_skipSpace (s : List Char) : skipSpace (skipSpace s) = skipSpace s :=
  List.dropWhile_idempotent isSpace s

theorem Lays.of_behind {tokens : List (List Char)} {s r : List Char} (hne : tokens ≠ [])
    (h : Lays tokens (skipSpace s) r) : Lays tokens s r := by
  obtain ⟨gap, hgap, hs⟩ := exists_gap s
  generalize skipSpace s = s' at h hs
  cases h with
  | nil => exact absurd rfl hne
  | @cons gap' _ t _ _ hgap' h =>
    rw [hs, ← List.append_assoc]
    refine .cons (fun c hc => ?_) h
    rcases List.mem_append.1 hc with hc | hc
    · exact hgap c hc
    · exact hgap' c hc

theorem Lays.behind {c : Char} {token : List Char} {tokens : List (List Char)} {s r : List Char}
    (hc : isSpace c = false) (h : Lays ((c :: token) :: tokens) s r) :
    Lays ((c :: token) :: tokens) (skipSpace s) r := by
  rw [cons_iff hc] at h ⊢
  rw [skipSpace_skipSpace]
  exact h

theorem Lays.tree_behind_iff {t : Tree} {s r : List Char} :
    Lays t.tokens (skipSpace s) r ↔ Lays t.tokens s r := by
  obtain ⟨c, token, tokens, ht, hc⟩ := t.exists_begins
  rw [ht]
  exact ⟨of_behind (List.cons_ne_nil _ _), behind hc.apart.1⟩

theorem Lays.ends {c : Char} {tokens : List (List Char)} {s r : List Char}
    (hc : c = ',' ∨ c = ']' ∨ c = '}') (h : Lays ([c] :: tokens) s r) : Ends s := by
  have hspace : isSpace c = false := by rcases hc with rfl | rfl | rfl <;> rfl
  obtain ⟨s', hs, -⟩ := (Lays.cons_iff hspace).1 h
  rw [Ends, hs]
  exact hc

theorem Lays.ends_upTo {e : Enclosure} {items : List (List (List Char))} {s r : List Char}
    (h : Lays (upTo e.close false items) s r) : Ends s := by
  cases items with
  | nil =>
    cases e with
    | list => exact h.ends (.inr (.inl rfl))
    | object => exact h.ends (.inr (.inr rfl))
  | cons item items => exact h.ends (.inl rfl)

theorem keyword_ok {es s r : List Char} (h : keyword es s = .ok r) : s = es ++ r := by
  induction es generalizing s with
  | nil =>
    cases h
    rfl
  | cons e es ih =>
    cases s with
    | nil => cases h
    | cons c s =>
      unfold keyword at h
      split at h
      · next hc => rw [hc, ih h, List.cons_append]
      · cases h

theorem keyword_append (es r : List Char) : keyword es (es ++ r) = .ok r := by
  induction es with
  | nil => cases r <;> rfl
  | cons e es ih => rw [List.cons_append, keyword, if_pos rfl, ih]

/-- What stands before a value between brackets. -/
def Enclosure.item : Enclosure → Member → List (List Char)
  | .list, m => m.2.tokens
  | .object, m => m.tokens

def Enclosure.opening : Enclosure → Char
  | .list => '['
  | .object => '{'

def Enclosure.tree : Enclosure → List Member → Tree
  | .list, ms => .list (ms.map Prod.snd)
  | .object, ms => .object ms

theorem Enclosure.tokens_tree (e : Enclosure) (ms : List Member) :
    (e.tree ms).tokens = [e.opening] :: upTo e.close true (ms.map e.item) := by
  cases e with
  | list =>
    rw [tree, Tree.tokens, List.map_map]
    rfl
  | object =>
    rw [tree, Tree.tokens]
    rfl

theorem skipKey_of_lays {l : Literal} {s r : List Char} (h : Lays [l.write, [':']] s r) :
    skipKey s = .ok r := by
  obtain ⟨s₁, hs, h⟩ := (Lays.cons_iff (by decide)).1 h
  have hcolon := (Lays.mark_iff (by decide)).1 h
  rw [List.append_assoc, List.cons_append, List.nil_append] at hs
  simp only [skipKey, hs, skipString_body, ok_bind, hcolon]

theorem skipKey_ok {s r : List Char} (h : skipKey s = .ok r) :
    ∃ l : Literal, Lays [l.write, [':']] s r := by
  unfold skipKey at h
  split at h
  · cases h
  · next s₁ hs =>
    obtain ⟨s₂, hskip, h⟩ := bind_eq_ok h
    obtain ⟨l, hl⟩ := skipStringLoop_ok hskip
    split at h
    · cases h
    · next s₃ hcolon =>
      cases h
      refine ⟨l, (Lays.cons_iff (by decide)).2 ⟨s₂, ?_, (Lays.mark_iff (by decide)).2 hcolon⟩⟩
      rw [hs, hl, List.append_assoc, List.cons_append, List.nil_append]
    · cases h
  · cases h

theorem Enclosure.member_of_lays {e : Enclosure} {m : Member} {s r : List Char}
    (h : Lays (e.item m) s r) :
    ∃ s', e.member s = .ok s' ∧ s'.length ≤ s.length ∧ Lays m.2.tokens s' r := by
  cases e with
  | list => exact ⟨s, rfl, Nat.le_refl _, h⟩
  | object =>
    obtain ⟨s', hkey, h⟩ := Lays.of_append (a := [m.1.write, [':']]) h
    exact ⟨s', skipKey_of_lays hkey, hkey.length_le, h⟩

theorem Enclosure.lays_of_member {e : Enclosure} {t : Tree} {s s' r : List Char}
    (hm : e.member s = .ok s') (h : Lays t.tokens s' r) :
    ∃ l : Literal, Lays (e.item (l, t)) s r := by
  cases e with
  | list =>
    cases hm
    exact ⟨[], h⟩
  | object =>
    obtain ⟨l, hkey⟩ := skipKey_ok hm
    exact ⟨l, hkey.append h⟩

def Tree.token? : Tree → Option (List Char)
  | .null => some "null".toList
  | .boolean true => some "true".toList
  | .boolean false => some "false".toList
  | .number n => some n.write
  | .text l => some l.write
  | .list _ | .object _ => none

theorem Tree.tokens_of_token? {t : Tree} {token : List Char} (h : t.token? = some token) :
    t.tokens = [token] := by
  cases t with
  | boolean b => cases b <;> cases h <;> rw [tokens]
  | list ts => cases h
  | object ms => cases h
  | _ => cases h; rw [tokens]

theorem skipScalar_token {t : Tree} {token r : List Char} (h : t.token? = some token)
    (hr : NoMore r) : skipScalar (token ++ r) = .ok r := by
  cases t with
  | null =>
    cases h
    exact keyword_append "ull".toList r
  | boolean b =>
    cases b <;> cases h
    · exact keyword_append "alse".toList r
    · exact keyword_append "rue".toList r
  | number n =>
    cases h
    have hskip := skipNumber_unsigned n hr
    by_cases hneg : n.negative
    · rw [Numeral.write, if_pos hneg]
      exact hskip
    · rw [Numeral.write, if_neg hneg]
      obtain ⟨c, ds, hs, hc, -⟩ := n.isWhole.exists_cons
      have hne {d : Char} : isDigit d = false → c ≠ d := Text.ne_of_isDigit hc
      rw [Numeral.unsigned, hs, List.cons_append, List.cons_append] at hskip ⊢
      unfold skipScalar
      split
      · next heq => exact absurd (List.cons.inj heq).1 (hne rfl)
      · next heq => exact absurd (List.cons.inj heq).1 (hne rfl)
      · next heq => exact absurd (List.cons.inj heq).1 (hne rfl)
      · next heq => exact absurd (List.cons.inj heq).1 (hne rfl)
      · next heq => exact absurd (List.cons.inj heq).1 (hne rfl)
      · next heq =>
        rw [← (List.cons.inj heq).1, if_pos hc]
        exact hskip
      · next heq => cases heq
  | text l =>
    cases h
    have hskip := skipString_body l r
    simpa [Literal.write, skipScalar] using hskip
  | list ts => cases h
  | object ms => cases h

theorem skipScalar_ok {s r : List Char} (h : skipScalar s = .ok r) :
    ∃ (t : Tree) (token : List Char), t.token? = some token ∧ s = token ++ r := by
  unfold skipScalar at h
  split at h
  · exact ⟨.null, _, rfl, by rw [keyword_ok h]; rfl⟩
  · exact ⟨.boolean true, _, rfl, by rw [keyword_ok h]; rfl⟩
  · exact ⟨.boolean false, _, rfl, by rw [keyword_ok h]; rfl⟩
  · obtain ⟨n, hn, hs⟩ := exists_numeral_of_skipNumber h true
    exact ⟨.number n, _, rfl, by rw [Numeral.write, if_pos hn, hs]; rfl⟩
  · obtain ⟨l, hs⟩ := skipStringLoop_ok h
    exact ⟨.text l, _, rfl, by rw [hs]; simp [Literal.write]⟩
  · split at h
    · obtain ⟨n, hn, hs⟩ := exists_numeral_of_skipNumber h false
      exact ⟨.number n, _, rfl, by rw [Numeral.write, if_neg (by simp [hn]), hs]⟩
    · cases h
  · cases h

/-- What the text still has to hold for all brackets to be closed. -/
def Closes : List Enclosure → List Char → List Char → Prop
  | [], s, r => s = r
  | e :: enclosing, s, r => ∃ (ms : List Member) (s' : List Char),
    Lays (upTo e.close false (ms.map e.item)) s s' ∧ Closes enclosing s' r

theorem Enclosure.enter_done {e : Enclosure} {s r : List Char} (h : e.enter s = .ok (false, r)) :
    skipSpace s = e.close :: r := by
  unfold enter at h
  split at h
  · cases h
  · next c s' hs =>
    split at h
    · next hc =>
      cases h
      rw [hs, hc]
    · obtain ⟨s₁, -, heq⟩ := map_eq_ok h
      cases heq

theorem Enclosure.enter_member {e : Enclosure} {s r : List Char} (h : e.enter s = .ok (true, r)) :
    e.member (skipSpace s) = .ok r := by
  unfold enter at h
  split at h
  · cases h
  · next c s' hs =>
    split at h
    · cases h
    · obtain ⟨s₁, hm, heq⟩ := map_eq_ok h
      cases heq
      rw [hs]
      exact hm

theorem Enclosure.isSpace_close (e : Enclosure) : isSpace e.close = false := by
  cases e <;> rfl

theorem Enclosure.isSpace_opening (e : Enclosure) : isSpace e.opening = false := by
  cases e <;> rfl

theorem skipLoop_opening {e : Enclosure} {s r : List Char} (hs : skipSpace s = e.opening :: r)
    (b : Char) (bound : List Char) (enclosing : List Enclosure) :
    skipLoop (b :: bound) true enclosing s = e.enter r >>= fun first =>
      if first.1 then skipLoop bound true (e :: enclosing) first.2
      else skipLoop bound false enclosing first.2 := by
  rw [skipLoop, hs]
  cases e with
  | list | object =>
    refine bind_congr fun first => ?_
    obtain ⟨more, r⟩ := first
    cases more <;> rfl

theorem Tree.Begins.ne_opening {t : Tree} {c : Char} {token : List Char} (h : t.Begins c)
    (ht : t.token? = some token) : c ≠ '[' ∧ c ≠ '{' := by
  cases t with
  | null => cases h; decide
  | boolean b => cases b <;> cases h <;> decide
  | number n =>
    rcases h with rfl | h
    · decide
    · exact ⟨Text.ne_of_isDigit h rfl, Text.ne_of_isDigit h rfl⟩
  | text l => cases h; decide
  | list ts => cases ht
  | object ms => cases ht

theorem Lays.token_iff {t : Tree} {token s r : List Char} (ht : t.token? = some token) :
    Lays t.tokens s r ↔ skipSpace s = token ++ r := by
  obtain ⟨c, front, tokens, htokens, hc⟩ := t.exists_begins
  have htoken : (c :: front) :: tokens = [token] := by rw [← htokens, Tree.tokens_of_token? ht]
  cases htoken
  rw [htokens, singleton_iff hc.apart.1]
  rfl

theorem skipLoop_token {t : Tree} {token s r : List Char} (ht : t.token? = some token)
    (hs : skipSpace s = token ++ r) (hr : NoMore r) (b : Char) (bound : List Char)
    (enclosing : List Enclosure) :
    skipLoop (b :: bound) true enclosing s = skipLoop bound false enclosing r := by
  have hskip := skipScalar_token ht hr
  obtain ⟨c, s', hs', hc⟩ := ((Lays.token_iff ht).2 hs).begins
  rw [← hs, hs'] at hskip
  rw [skipLoop, hs']
  split
  · next heq => exact absurd (List.cons.inj heq).1 (hc.ne_opening ht).1
  · next heq => exact absurd (List.cons.inj heq).1 (hc.ne_opening ht).2
  · rw [hskip, ok_bind]

theorem lays_opening {e : Enclosure} {ms : List Member} {s s' r : List Char}
    (hs : skipSpace s = e.opening :: s') (h : Lays (upTo e.close true (ms.map e.item)) s' r) :
    Lays (e.tree ms).tokens s r := by
  rw [e.tokens_tree, Lays.cons_iff e.isSpace_opening]
  exact ⟨s', hs, h⟩

theorem Enclosure.item_begins (e : Enclosure) (m : Member) : ∃ c token tokens,
    e.item m = (c :: token) :: tokens ∧ isSpace c = false ∧ c ≠ e.close := by
  cases e with
  | list =>
    obtain ⟨c, token, tokens, ht, hc⟩ := m.2.exists_begins
    exact ⟨c, token, tokens, ht, hc.apart.1, hc.apart.2.1⟩
  | object => exact ⟨'"', _, _, rfl, rfl, by decide⟩

/-- What a run that succeeds has gone over. -/
def Passes : (wanting : Bool) → List Enclosure → List Char → List Char → Prop
  | true, enclosing, s, r =>
    ∃ (t : Tree) (s' : List Char), Lays t.tokens s s' ∧ Closes enclosing s' r
  | false, enclosing, s, r => Closes enclosing s r

theorem Passes.member {e : Enclosure} {enclosing : List Enclosure} {s s' r : List Char}
    (hm : e.member s = .ok s') (h : Passes true (e :: enclosing) s' r) :
    ∃ (m : Member) (ms : List Member) (s₁ : List Char),
      Lays (e.item m ++ upTo e.close false (ms.map e.item)) s s₁ ∧ Closes enclosing s₁ r := by
  obtain ⟨t, s₂, ht, ms, s₁, hms, hclose⟩ := h
  obtain ⟨l, hl⟩ := e.lays_of_member hm ht
  exact ⟨(l, t), ms, s₁, hl.append hms, hclose⟩

theorem passes_opening {bound : List Char} (ih : ∀ {wanting enclosing s r},
      skipLoop bound wanting enclosing s = .ok r → Passes wanting enclosing s r)
    {e : Enclosure} {enclosing : List Enclosure} {s s' r : List Char} {b : Char}
    (hs : skipSpace s = e.opening :: s') (h : skipLoop (b :: bound) true enclosing s = .ok r) :
    Passes true enclosing s r := by
  rw [skipLoop_opening hs] at h
  obtain ⟨⟨more, s₁⟩, henter, h⟩ := bind_eq_ok h
  cases more with
  | true =>
    obtain ⟨m, ms, s₂, hms, hclose⟩ := (ih h).member (e.enter_member henter)
    obtain ⟨c, token, tokens, hitem, -⟩ := e.item_begins m
    have hne : e.item m ++ upTo e.close false (ms.map e.item) ≠ [] := by
      rw [hitem]
      exact List.cons_ne_nil _ _
    exact ⟨e.tree (m :: ms), s₂, lays_opening hs (hms.of_behind hne), hclose⟩
  | false =>
    have hend := (Lays.mark_iff e.isSpace_close).2 (e.enter_done henter)
    exact ⟨e.tree [], s₁, lays_opening hs hend, ih h⟩

theorem skipLoop_ok {bound : List Char} : ∀ {wanting : Bool} {enclosing : List Enclosure}
    {s r : List Char},
    skipLoop bound wanting enclosing s = .ok r → Passes wanting enclosing s r := by
  induction bound with
  | nil =>
    intro wanting enclosing s r h
    cases wanting with
    | true => cases h
    | false =>
      cases enclosing with
      | nil =>
        cases h
        rfl
      | cons e enclosing => cases h
  | cons b bound ih =>
    intro wanting enclosing s r h
    cases wanting with
    | true =>
      by_cases hopen : ∃ (e : Enclosure) (s' : List Char), skipSpace s = e.opening :: s'
      · obtain ⟨e, s', hs⟩ := hopen
        exact passes_opening ih hs h
      · rw [skipLoop] at h
        split at h
        · next s' hs => exact absurd ⟨.list, s', hs⟩ hopen
        · next s' hs => exact absurd ⟨.object, s', hs⟩ hopen
        · obtain ⟨s₁, hskip, h⟩ := bind_eq_ok h
          obtain ⟨t, token, ht, hs⟩ := skipScalar_ok hskip
          exact ⟨t, s₁, (Lays.token_iff ht).2 hs, ih h⟩
    | false =>
      cases enclosing with
      | nil =>
        rw [skipLoop] at h
        exact Except.ok.inj h
      | cons e enclosing =>
        rw [skipLoop] at h
        split at h
        · cases h
        next c s' hs =>
        split at h
        · next hc =>
          refine ⟨[], s', (Lays.mark_iff e.isSpace_close).2 ?_, ih h⟩
          rw [hs, hc]
        split at h
        · next hc =>
          obtain ⟨s₁, hm, h⟩ := bind_eq_ok h
          obtain ⟨m, ms, s₂, hms, hclose⟩ := (ih h).member hm
          refine ⟨m :: ms, s₂, (Lays.mark_cons_iff (by decide)).2 ⟨s', ?_, hms⟩, hclose⟩
          rw [hs, hc]
        · cases h

theorem skipValue_ok {s r : List Char} (h : skipValue s = .ok r) :
    ∃ t : Tree, Lays t.tokens s r := by
  obtain ⟨t, s', ht, rfl⟩ := skipLoop_ok h
  exact ⟨t, ht⟩

def Tree.Skips (t : Tree) : Prop :=
  ∀ (bound : List Char) (enclosing : List Enclosure) (s r : List Char), Lays t.tokens s r →
    Ends r → s.length ≤ bound.length → ∃ bound' : List Char, r.length ≤ bound'.length ∧
      skipLoop bound true enclosing s = skipLoop bound' false enclosing r

theorem skips_token {t : Tree} {token : List Char} (ht : t.token? = some token) : t.Skips := by
  intro bound enclosing s r h hr hb
  have htoken := (Lays.token_iff ht).1 h
  have hpos : 0 < bound.length := Nat.lt_of_lt_of_le (Nat.zero_lt_of_lt h.length_lt) hb
  have hlength := h.length_lt
  obtain ⟨b, bound, rfl⟩ := List.exists_cons_of_length_pos hpos
  rw [List.length_cons] at hb
  exact ⟨bound, by omega, skipLoop_token ht htoken hr.noMore b bound enclosing⟩

theorem Enclosure.enter_of_lays {e : Enclosure} {m : Member} {s r : List Char}
    (h : Lays (e.item m) s r) :
    ∃ s', e.enter s = .ok (true, s') ∧ s'.length ≤ s.length ∧ Lays m.2.tokens s' r := by
  obtain ⟨c, token, tokens, hitem, hspace, hclose⟩ := e.item_begins m
  have hbehind : Lays (e.item m) (skipSpace s) r := by
    rw [hitem] at h ⊢
    exact h.behind hspace
  obtain ⟨s', hm, hlength, hs'⟩ := e.member_of_lays hbehind
  rw [hitem, Lays.cons_iff hspace] at h
  obtain ⟨s₁, hs, -⟩ := h
  have hle : (skipSpace s).length ≤ s.length := (List.dropWhile_sublist isSpace).length_le
  refine ⟨s', ?_, Nat.le_trans hlength hle, hs'⟩
  rw [hs] at hm
  simp only [enter, hs, if_neg hclose, hm, map_ok]

theorem skipLoop_members {e : Enclosure} {ms : List Member} (hms : ∀ m ∈ ms, m.2.Skips) :
    ∀ (bound : List Char) (enclosing : List Enclosure) (s r : List Char),
      Lays (upTo e.close false (ms.map e.item)) s r → s.length ≤ bound.length →
      ∃ bound' : List Char, r.length ≤ bound'.length ∧
        skipLoop bound false (e :: enclosing) s = skipLoop bound' false enclosing r := by
  induction ms with
  | nil =>
    intro bound enclosing s r h hb
    have hs := (Lays.mark_iff e.isSpace_close).1 h
    have hlength := length_lt_of_skipSpace hs
    obtain ⟨b, bound, rfl⟩ := List.exists_cons_of_length_pos (by omega : 0 < bound.length)
    rw [List.length_cons] at hb
    refine ⟨bound, by omega, ?_⟩
    rw [skipLoop, hs]
    exact if_pos rfl
  | cons m ms ih =>
    intro bound enclosing s r h hb
    obtain ⟨s₁, hs, h⟩ := (Lays.mark_cons_iff (by decide)).1 h
    obtain ⟨s₂, hm, h⟩ := h.of_append
    obtain ⟨s₃, hmember, hle, ht⟩ := e.member_of_lays hm
    have hlength := length_lt_of_skipSpace hs
    obtain ⟨b, bound, rfl⟩ := List.exists_cons_of_length_pos (by omega : 0 < bound.length)
    rw [List.length_cons] at hb
    obtain ⟨bound₁, hb₁, hloop₁⟩ :=
      hms m List.mem_cons_self bound (e :: enclosing) s₃ s₂ ht h.ends_upTo (by omega)
    obtain ⟨bound₂, hb₂, hloop₂⟩ :=
      ih (fun m' hm' => hms m' (List.mem_cons_of_mem m hm')) bound₁ enclosing s₂ r h hb₁
    refine ⟨bound₂, hb₂, ?_⟩
    rw [← hloop₂, ← hloop₁, skipLoop, hs]
    have hcomma : ',' ≠ e.close := by cases e <;> decide
    simp only [if_neg hcomma, if_true, hmember, ok_bind]

theorem skips_tree (e : Enclosure) {ms : List Member} (hms : ∀ m ∈ ms, m.2.Skips) :
    (e.tree ms).Skips := by
  intro bound enclosing s r h hr hb
  rw [e.tokens_tree] at h
  obtain ⟨s₁, hs, h⟩ := (Lays.mark_cons_iff e.isSpace_opening).1 h
  have hlength := length_lt_of_skipSpace hs
  obtain ⟨b, bound, rfl⟩ := List.exists_cons_of_length_pos (by omega : 0 < bound.length)
  rw [List.length_cons] at hb
  cases ms with
  | nil =>
    have hend := (Lays.mark_iff e.isSpace_close).1 h
    have hlength' := length_lt_of_skipSpace hend
    refine ⟨bound, by omega, ?_⟩
    have henter : e.enter s₁ = .ok (false, r) := by simp only [Enclosure.enter, hend, if_true]
    rw [skipLoop_opening hs, henter, ok_bind]
    rfl
  | cons m ms =>
    obtain ⟨s₂, hm, h⟩ := h.of_append
    obtain ⟨s₃, henter, hle, ht⟩ := e.enter_of_lays hm
    obtain ⟨bound₁, hb₁, hloop₁⟩ :=
      hms m List.mem_cons_self bound (e :: enclosing) s₃ s₂ ht h.ends_upTo (by omega)
    obtain ⟨bound₂, hb₂, hloop₂⟩ := skipLoop_members
      (fun m' hm' => hms m' (List.mem_cons_of_mem m hm')) bound₁ enclosing s₂ r h hb₁
    refine ⟨bound₂, hb₂, ?_⟩
    rw [skipLoop_opening hs, henter, ok_bind, ← hloop₂, ← hloop₁]
    rfl

theorem skips (t : Tree) : t.Skips := by
  induction t using Tree.induct with
  | null => exact skips_token rfl
  | boolean b => cases b <;> exact skips_token rfl
  | number n => exact skips_token rfl
  | text l => exact skips_token rfl
  | list ts ih =>
    have htree : Enclosure.list.tree (ts.map fun t => ([], t)) = .list ts := by
      simp [Enclosure.tree, Function.comp_def]
    rw [← htree]
    refine skips_tree .list fun m hm => ?_
    obtain ⟨t, ht, rfl⟩ := List.mem_map.1 hm
    exact ih t ht
  | object ms ih => exact skips_tree .object ih

theorem skipValue_of_lays {t : Tree} {s r : List Char} (h : Lays t.tokens s r) (hr : Ends r) :
    skipValue s = .ok r := by
  obtain ⟨bound, -, hloop⟩ := skips t s [] s r h hr (Nat.le_refl _)
  rw [skipValue, hloop]
  cases bound <;> rfl

end FlowLines.Json
