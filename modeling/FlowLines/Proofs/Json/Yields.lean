import FlowLines.Proofs.Json.Takes

/-! What holds of every value that a reader hands on, whatever the text. -/

namespace FlowLines.Json

variable {α β σ : Type} {read : Reader α}

def Yields (read : Reader α) (P : α → Prop) : Prop := ∀ s x r, read s = .ok (x, r) → P x

theorem yields_trivial (read : Reader α) : Yields read fun _ => True := by
  intro s x r _
  trivial

theorem Yields.map {P : α → Prop} {Q : β → Prop} {f : α → β} (h : Yields read P)
    (hf : ∀ x, P x → Q (f x)) : Yields (mapped f read) Q := by
  intro s y r hy
  obtain ⟨⟨x, r'⟩, hx, heq⟩ := map_eq_ok hy
  cases heq
  exact hf x (h s x r hx)

theorem yields_passing {P : α → Prop} {x : α} (hx : P x) : Yields (passing x) P := by
  intro s y r hy
  obtain ⟨r', -, heq⟩ := map_eq_ok hy
  cases heq
  exact hx

theorem Yields.optional {P : α → Prop} (h : Yields read P) :
    Yields (readOptional read) fun o => ∀ x ∈ o, P x := by
  intro s o r ho x hx
  unfold readOptional at ho
  split at ho
  · obtain ⟨r', -, heq⟩ := map_eq_ok ho
    cases heq
    cases hx
  · obtain ⟨⟨y, r'⟩, hy, heq⟩ := map_eq_ok ho
    cases heq
    cases hx
    exact h _ _ _ hy

theorem yields_readMembers {members : Members σ} {P : σ → Prop} {start : σ} (hstart : P start)
    (h : ∀ key known read, P known → members key known = .ok read → Yields read P) :
    Yields (readMembers members start) P := by
  have hloop : ∀ (bound : List Char) (first : Bool) (known : σ), P known →
      Yields (readMembersLoop members bound first known) P := by
    intro bound
    induction bound with
    | nil =>
      intro first known _ s last r hs
      cases hs
    | cons b bound ih =>
      intro first known hknown s last r hs
      obtain ⟨next, -, hs⟩ := bind_eq_ok hs
      cases next with
      | done r' =>
        cases hs
        exact hknown
      | member r' =>
        obtain ⟨⟨key, r'⟩, -, hs⟩ := bind_eq_ok hs
        simp only at hs
        cases hkey : members key known with
        | error cause =>
          rw [hkey] at hs
          cases hs
        | ok read =>
          rw [hkey] at hs
          obtain ⟨r₁, -, hs⟩ := bind_eq_ok hs
          obtain ⟨⟨known', r₂⟩, hread, hs⟩ := bind_eq_ok hs
          exact ih false known' (h key known read hknown hkey _ _ _ hread) _ _ _ hs
  intro s last r hs
  exact hloop s true start hstart s last r hs

theorem Yields.list {P : α → Prop} (h : Yields read P) :
    Yields (readList read) fun xs => ∀ x ∈ xs, P x := by
  have hloop : ∀ (bound : List Char) (first : Bool) (done : List α), (∀ x ∈ done, P x) →
      Yields (readElementsLoop read bound first done) fun xs => ∀ x ∈ xs, P x := by
    intro bound
    induction bound with
    | nil =>
      intro first done _ s xs r hs
      cases hs
    | cons b bound ih =>
      intro first done hdone s xs r hs
      obtain ⟨next, -, hs⟩ := bind_eq_ok hs
      cases next with
      | done r' =>
        cases hs
        intro x hx
        exact hdone x (List.mem_reverse.1 hx)
      | member r' =>
        obtain ⟨⟨x, r₁⟩, hx, hs⟩ := bind_eq_ok hs
        apply ih false (x :: done) _ _ _ _ hs
        intro y hy
        rcases List.mem_cons.1 hy with rfl | hy
        · exact h _ _ _ hx
        · exact hdone y hy
  intro s xs r hs
  unfold readList at hs
  split at hs
  · cases hs
  · next rest _ => exact hloop rest true [] (by simp) rest xs r hs
  · cases hs

end FlowLines.Json
