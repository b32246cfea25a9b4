import FlowLines.Proofs.Json.Reads

/-! Readers of lists and of objects as functions of trees.  One step reads one part. -/

namespace FlowLines.Json

variable {α σ : Type}

theorem nextElement_done (first : Bool) {s r : List Char} (hs : skipSpace s = ']' :: r) :
    nextElement first s = .ok (.done r) := by
  simp only [nextElement, hs]

theorem nextElement_member {first : Bool} {t : Tree} {items : List (List (List Char))}
    {s r : List Char} (h : Lays (upTo ']' first (t.tokens :: items)) s r) :
    ∃ s₁ s₂, nextElement first s = .ok (.member s₁) ∧ Lays t.tokens s₁ s₂ ∧
      Lays (upTo ']' false items) s₂ r ∧ s₂.length < s.length := by
  cases first with
  | true =>
    obtain ⟨s₂, ht, h⟩ := h.of_append
    obtain ⟨c, s', hs, hc⟩ := ht.begins
    refine ⟨skipSpace s, s₂, ?_, Lays.tree_behind_iff.2 ht, h, ht.length_lt⟩
    obtain ⟨-, hclose, -⟩ := hc.apart
    simp [nextElement, hs]
  | false =>
    obtain ⟨s₀, hs₀, h⟩ := (Lays.mark_cons_iff rfl).1 h
    obtain ⟨s₂, ht, h⟩ := h.of_append
    obtain ⟨c, s', hs, hc⟩ := ht.begins
    have hlength := length_lt_of_skipSpace hs₀
    refine ⟨skipSpace s₀, s₂, ?_, Lays.tree_behind_iff.2 ht, h, ht.length_lt.trans hlength⟩
    obtain ⟨-, hclose, -⟩ := hc.apart
    simp [nextElement, hs₀, hs, hclose]

theorem skipSpace_of_nextElement {first : Bool} {s r : List Char}
    (h : nextElement first s = .ok (.done r)) : skipSpace s = ']' :: r := by
  unfold nextElement at h
  split at h
  · cases h
  · next hs =>
    cases h
    exact hs
  · split at h
    · cases h
    split at h
    · split at h <;> cases h
    · cases h

theorem lays_of_nextElement {first : Bool} {s s₁ s₂ r : List Char} {t : Tree}
    {items : List (List (List Char))} (h : nextElement first s = .ok (.member s₁))
    (ht : Lays t.tokens s₁ s₂) (hitems : Lays (upTo ']' false items) s₂ r) :
    Lays (upTo ']' first (t.tokens :: items)) s r := by
  unfold nextElement at h
  split at h
  · cases h
  · cases h
  · next c s' _ hs =>
    split at h
    · next hfirst =>
      cases h
      rw [← hs, Lays.tree_behind_iff] at ht
      rw [hfirst]
      exact ht.append hitems
    next hfirst =>
    rw [eq_false_of_ne_true hfirst]
    split at h
    · next hc =>
      split at h
      · cases h
      · cases h
      · cases h
        rw [Lays.tree_behind_iff] at ht
        exact (Lays.mark_cons_iff rfl).2 ⟨s', by rw [hs, hc], ht.append hitems⟩
    · cases h

theorem readElementsLoop_of_lays {read : Reader α} {of? : Tree → Option α} (h : Reads read of?)
    (ts : List Tree) : ∀ (bound : List Char) (first : Bool) (done : List α) (s r : List Char),
      Lays (upTo ']' first (ts.map Tree.tokens)) s r → s.length ≤ bound.length →
      (readElementsLoop read bound first done s).toOption =
        (ts.mapM of?).map fun xs => (done.reverse ++ xs, r) := by
  induction ts with
  | nil =>
    intro bound first done s r hs hb
    rw [List.map_nil, upTo, Lays.mark_iff rfl] at hs
    have hlength := length_lt_of_skipSpace hs
    obtain ⟨b, bound, rfl⟩ := List.exists_cons_of_length_pos (by omega : 0 < bound.length)
    simp [readElementsLoop, nextElement_done first hs]
  | cons t ts ih =>
    intro bound first done s r hs hb
    obtain ⟨s₁, s₂, hnext, ht, hs, hlength⟩ := nextElement_member hs
    obtain ⟨b, bound, rfl⟩ := List.exists_cons_of_length_pos (by omega : 0 < bound.length)
    rw [List.length_cons] at hb
    have hread := h.of_lays ht (Lays.ends_upTo (e := .list) hs)
    rw [List.mapM_cons]
    simp only [readElementsLoop, hnext, ok_bind]
    rw [toOption_bind, hread]
    cases of? t with
    | none => rfl
    | some x =>
      have hrest := ih bound false (x :: done) s₂ r hs (by omega)
      simp only [Option.map_some, Option.bind_some, hrest]
      cases ts.mapM of? <;> simp

theorem readElementsLoop_ok {read : Reader α} {of? : Tree → Option α} (h : Reads read of?)
    (bound : List Char) : ∀ (first : Bool) (done xs : List α) (s r : List Char),
      readElementsLoop read bound first done s = .ok (xs, r) →
      ∃ (ts : List Tree) (ys : List α), Lays (upTo ']' first (ts.map Tree.tokens)) s r ∧
        ts.mapM of? = some ys ∧ xs = done.reverse ++ ys := by
  induction bound with
  | nil =>
    intro first done xs s r hs
    cases hs
  | cons b bound ih =>
    intro first done xs s r hs
    obtain ⟨next, hnext, hs⟩ := bind_eq_ok hs
    cases next with
    | done r' =>
      cases hs
      have hclose := skipSpace_of_nextElement hnext
      exact ⟨[], [], (Lays.mark_iff rfl).2 hclose, rfl, by simp⟩
    | member s₁ =>
      obtain ⟨⟨x, s₂⟩, hx, hs⟩ := bind_eq_ok hs
      obtain ⟨t, ht, hvalue⟩ := h.exists_tree hx
      obtain ⟨ts, ys, hitems, hts, rfl⟩ := ih false (x :: done) xs s₂ r hs
      refine ⟨t :: ts, x :: ys, lays_of_nextElement hnext ht hitems, ?_, by simp⟩
      rw [List.mapM_cons, hvalue, hts]
      rfl

def Tree.elements (of? : Tree → Option α) : Tree → Option (List α)
  | .list ts => ts.mapM of?
  | _ => none

theorem Lays.list {ts : List Tree} {s r : List Char} : Lays (Tree.list ts).tokens s r ↔
    ∃ s', skipSpace s = '[' :: s' ∧ Lays (upTo ']' true (ts.map Tree.tokens)) s' r := by
  rw [Tree.tokens, mark_cons_iff rfl]

theorem Reads.list {read : Reader α} {of? : Tree → Option α} (h : Reads read of?) :
    Reads (readList read) (Tree.elements of?) where
  of_lays {t s r} ht hr := by
    obtain ⟨c, s', hs, hc⟩ := ht.begins
    by_cases hbracket : c = '['
    · obtain ⟨ts, rfl⟩ := (hbracket ▸ hc).of_bracket
      obtain ⟨s₁, hs₁, hts⟩ := Lays.list.1 ht
      have hloop := readElementsLoop_of_lays h ts s₁ true [] s₁ r hts (Nat.le_refl _)
      simpa [readList, hs₁, Tree.elements] using hloop
    · have hnone : (readList read s).toOption = none := by
        unfold readList
        rw [hs]
        split
        · rfl
        · next heq => exact absurd (List.cons.inj heq).1 hbracket
        · rfl
      rw [hnone]
      cases t with
      | list ts => exact absurd hc hbracket
      | _ => rfl
  exists_tree {s r xs} hs := by
    unfold readList at hs
    split at hs
    · cases hs
    · next s' heq =>
      obtain ⟨ts, ys, hts, hys, rfl⟩ := readElementsLoop_ok h s' true [] xs s' r hs
      exact ⟨.list ts, Lays.list.2 ⟨s', heq, hts⟩, hys⟩
    · cases hs

theorem nextKey_done {first : Bool} {s r : List Char} (hs : skipSpace s = '}' :: r) :
    nextKey first s = .ok (.done r) := by
  simp only [nextKey, hs]

theorem nextKey_member {first : Bool} {m : Member} {items : List (List (List Char))}
    {s r : List Char} (h : Lays (upTo '}' first (m.tokens :: items)) s r) :
    ∃ s₁ s₂ s₃, nextKey first s = .ok (.member (m.1.body ++ '"' :: s₁)) ∧ colon s₁ = .ok s₂ ∧
      Lays m.2.tokens s₂ s₃ ∧ Lays (upTo '}' false items) s₃ r ∧ s₃.length < s.length := by
  have hfirst : ∃ s₀, (∀ r, skipSpace s₀ = '"' :: r → nextKey first s = .ok (.member r)) ∧
      Lays (m.tokens ++ upTo '}' false items) s₀ r ∧ s₀.length ≤ s.length := by
    cases first with
    | true => exact ⟨s, fun r' hr' => by simp [nextKey, hr'], h, Nat.le_refl _⟩
    | false =>
      obtain ⟨s₀, hs₀, h⟩ := (Lays.mark_cons_iff rfl).1 h
      exact ⟨s₀, fun r' hr' => by simp [nextKey, hs₀, hr'], h, (length_lt_of_skipSpace hs₀).le⟩
  obtain ⟨s₀, hnext, h, hlength⟩ := hfirst
  obtain ⟨s₃, hm, h⟩ := h.of_append
  obtain ⟨s₁, hs₁, hm⟩ := (Lays.cons_iff rfl).1 hm
  obtain ⟨s₂, hs₂, ht⟩ := (Lays.mark_cons_iff rfl).1 hm
  rw [List.append_assoc] at hs₁
  refine ⟨s₁, s₂, s₃, hnext _ hs₁, by simp only [colon, hs₂], ht, h, ?_⟩
  have hkey := length_lt_of_skipSpace hs₁
  have hcolon := length_lt_of_skipSpace hs₂
  have hlt := ht.length_lt
  simp only [List.length_append, List.length_cons] at hkey
  omega

theorem skipSpace_of_nextKey {first : Bool} {s r : List Char}
    (h : nextKey first s = .ok (.done r)) : skipSpace s = '}' :: r := by
  unfold nextKey at h
  split at h
  · cases h
  · next hs =>
    cases h
    exact hs
  · split at h
    · split at h <;> cases h
    split at h
    · split at h <;> cases h
    · cases h

theorem skipSpace_of_colon {s r : List Char} (h : colon s = .ok r) : skipSpace s = ':' :: r := by
  unfold colon at h
  split at h
  · cases h
  · next hs =>
    cases h
    exact hs
  · cases h

theorem lays_of_nextKey {first : Bool} {s s₁ s₂ s₃ r : List Char} {l : Literal} {t : Tree}
    {items : List (List (List Char))} (h : nextKey first s = .ok (.member (l.body ++ '"' :: s₁)))
    (hcolon : colon s₁ = .ok s₂) (ht : Lays t.tokens s₂ s₃)
    (hitems : Lays (upTo '}' false items) s₃ r) :
    Lays (upTo '}' first (Member.tokens (l, t) :: items)) s r := by
  have hmember {s₀ : List Char} (hs₀ : skipSpace s₀ = '"' :: (l.body ++ '"' :: s₁)) :
      Lays (Member.tokens (l, t) ++ upTo '}' false items) s₀ r := by
    refine Lays.append (t := s₃) ((Lays.cons_iff rfl).2 ⟨s₁, ?_, ?_⟩) hitems
    · rw [hs₀, List.append_assoc]
      rfl
    · exact (Lays.mark_cons_iff rfl).2 ⟨s₂, skipSpace_of_colon hcolon, ht⟩
  unfold nextKey at h
  split at h
  · cases h
  · cases h
  · next c s' _ hs =>
    split at h
    · next hfirst =>
      rw [hfirst]
      split at h
      · next hc =>
        cases h
        exact hmember (by rw [hs, hc])
      · cases h
    next hfirst =>
    rw [eq_false_of_ne_true hfirst]
    split at h
    · next hc =>
      split at h
      · cases h
      · next hquote =>
        cases h
        exact (Lays.mark_cons_iff rfl).2 ⟨s', by rw [hs, hc], hmember hquote⟩
      · cases h
      · cases h
    · cases h

/-- How a member adds to what is known, told by its key and its tree. -/
abbrev Step (σ : Type) := List Char → Tree → σ → Option σ

structure Gathers (members : Members σ) (step : Step σ) : Prop where
  refuses : ∀ {key : List Char} {known : σ} {cause : Cause}, members key known = .error cause →
    ∀ t, step key t known = none
  reads : ∀ {key : List Char} {known : σ} {read : Reader σ}, members key known = .ok read →
    Reads read fun t => step key t known

def Step.member (step : Step σ) (known : σ) (m : Member) : Option σ :=
  m.key?.bind fun key => step key m.2 known

theorem readMembersLoop_of_lays {members : Members σ} {step : Step σ} (h : Gathers members step)
    (ms : List Member) : ∀ (bound : List Char) (first : Bool) (known : σ) (s r : List Char),
      Lays (upTo '}' first (ms.map Member.tokens)) s r → s.length ≤ bound.length →
      (readMembersLoop members bound first known s).toOption =
        (ms.foldlM step.member known).map (·, r) := by
  induction ms with
  | nil =>
    intro bound first known s r hs hb
    rw [List.map_nil, upTo, Lays.mark_iff rfl] at hs
    have hlength := length_lt_of_skipSpace hs
    obtain ⟨b, bound, rfl⟩ := List.exists_cons_of_length_pos (by omega : 0 < bound.length)
    simp [readMembersLoop, nextKey_done hs]
  | cons m ms ih =>
    intro bound first known s r hs hb
    obtain ⟨s₁, s₂, s₃, hnext, hcolon, ht, hs, hlength⟩ := nextKey_member hs
    obtain ⟨b, bound, rfl⟩ := List.exists_cons_of_length_pos (by omega : 0 < bound.length)
    rw [List.length_cons] at hb
    have hkey := readString_body m.1 s₁
    simp only [readMembersLoop, hnext, ok_bind]
    rw [toOption_bind, hkey, List.foldlM_cons, Step.member, Member.key?]
    cases m.1.text? with
    | none => rfl
    | some key =>
      simp only [Option.map_some, Option.bind_some]
      cases hread : members key known with
      | error cause => simp [h.refuses hread m.2]
      | ok read =>
        have hvalue := (h.reads hread).of_lays ht (Lays.ends_upTo (e := .object) hs)
        simp only [hcolon, ok_bind]
        rw [toOption_bind, hvalue]
        cases step key m.2 known with
        | none => rfl
        | some next => exact ih bound false next s₃ r hs (by omega)

theorem readMembersLoop_ok {members : Members σ} {step : Step σ} (h : Gathers members step)
    (bound : List Char) : ∀ (first : Bool) (known last : σ) (s r : List Char),
      readMembersLoop members bound first known s = .ok (last, r) →
      ∃ ms : List Member, Lays (upTo '}' first (ms.map Member.tokens)) s r ∧
        ms.foldlM step.member known = some last := by
  induction bound with
  | nil =>
    intro first known last s r hs
    cases hs
  | cons b bound ih =>
    intro first known last s r hs
    obtain ⟨next, hnext, hs⟩ := bind_eq_ok hs
    cases next with
    | done r' =>
      cases hs
      exact ⟨[], (Lays.mark_iff rfl).2 (skipSpace_of_nextKey hnext), rfl⟩
    | member s₀ =>
      obtain ⟨⟨key, s₁⟩, hkey, hs⟩ := bind_eq_ok hs
      obtain ⟨l, hl, htext⟩ := readString_ok hkey
      dsimp only at hs
      split at hs
      · cases hs
      next read hread =>
      obtain ⟨s₂, hcolon, hs⟩ := bind_eq_ok hs
      obtain ⟨⟨after, s₃⟩, hafter, hs⟩ := bind_eq_ok hs
      obtain ⟨t, ht, hvalue⟩ := (h.reads hread).exists_tree hafter
      obtain ⟨ms, hitems, hms⟩ := ih false after last s₃ r hs
      refine ⟨(l, t) :: ms, lays_of_nextKey (hl ▸ hnext) hcolon ht hitems, ?_⟩
      rw [List.foldlM_cons, Step.member, Member.key?, htext, Option.bind_some, hvalue]
      exact hms

theorem readMembers_of_lays {members : Members σ} {step : Step σ} (h : Gathers members step)
    (start : σ) {ms : List Member} {s r : List Char}
    (hs : Lays (upTo '}' true (ms.map Member.tokens)) s r) :
    (readMembers members start s).toOption = (ms.foldlM step.member start).map (·, r) :=
  readMembersLoop_of_lays h ms s true start s r hs (Nat.le_refl _)

theorem readMembers_ok {members : Members σ} {step : Step σ} (h : Gathers members step)
    {start last : σ} {s r : List Char} (hs : readMembers members start s = .ok (last, r)) :
    ∃ ms : List Member, Lays (upTo '}' true (ms.map Member.tokens)) s r ∧
      ms.foldlM step.member start = some last :=
  readMembersLoop_ok h s true start last s r hs

theorem Lays.object {ms : List Member} {s r : List Char} : Lays (Tree.object ms).tokens s r ↔
    ∃ s', skipSpace s = '{' :: s' ∧ Lays (upTo '}' true (ms.map Member.tokens)) s' r := by
  rw [Tree.tokens, mark_cons_iff rfl]
  rfl

theorem Reads.readAll_ok {read : Reader α} {of? : Tree → Option α} (h : Reads read of?)
    {text : List Char} {x : α} (hs : readAll read text = .ok x) :
    ∃ t : Tree, t.Spells text ∧ of? t = some x := by
  unfold readAll at hs
  split at hs
  · cases hs
  · next r hread =>
    split at hs
    · next hr =>
      cases hs
      obtain ⟨t, ht, hvalue⟩ := h.exists_tree hread
      exact ⟨t, ⟨r, ht, skipSpace_eq_nil_iff.1 hr⟩, hvalue⟩
    · cases hs

theorem Reads.readAll_of_spells {read : Reader α} {of? : Tree → Option α} (h : Reads read of?)
    {t : Tree} {text : List Char} (ht : t.Spells text) : (readAll read text).toOption = of? t := by
  obtain ⟨r, ht, hr⟩ := ht
  have hnil := skipSpace_eq_nil_iff.2 hr
  have hends : Ends r := by
    rw [Ends, hnil]
    trivial
  have hread := h.of_lays ht hends
  unfold readAll
  cases hx : read text with
  | error stop =>
    rw [hx] at hread
    cases hvalue : of? t with
    | none => rfl
    | some x =>
      rw [hvalue] at hread
      cases hread
  | ok x =>
    obtain ⟨x, r'⟩ := x
    rw [hx] at hread
    cases hvalue : of? t with
    | none =>
      rw [hvalue] at hread
      cases hread
    | some y =>
      rw [hvalue] at hread
      cases hread
      simp only [hnil]
      rfl

end FlowLines.Json
