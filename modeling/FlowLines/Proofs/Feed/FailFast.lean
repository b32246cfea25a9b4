import FlowLines.Proofs.Feed.Limit

/-! A run that ends at a malformed line, beside the run that passes over such lines.  They are the
same up to the first malformed line, and the one that ends there is not counted. -/

namespace FlowLines.Feed

variable {σ : Type}

/-- A line that is neither blank nor a record. -/
def Malformed (limit : Nat) (line : List UInt8) : Prop :=
  ∃ fault, decodeLine limit line = .error fault

theorem exists_ok_of_not_malformed {limit : Nat} {line : List UInt8}
    (h : ¬ Malformed limit line) : ∃ record?, decodeLine limit line = .ok record? := by
  cases hd : decodeLine limit line with
  | error fault => exact absurd ⟨fault, hd⟩ h
  | ok record? => exact ⟨record?, rfl⟩

instance (limit : Nat) (line : List UInt8) : Decidable (Malformed limit line) :=
  match h : decodeLine limit line with
  | .error fault => .isTrue ⟨fault, h⟩
  | .ok _ => .isFalse fun ⟨_, he⟩ => nomatch h.symm.trans he

theorem Ledger.lines_foldl_enter (r : Reporter σ) (source : String) (said : List Saying)
    (l : Ledger σ) : (said.foldl (Ledger.enter r source) l).lines = l.lines + said.length := by
  induction said generalizing l with
  | nil => rfl
  | cons saying said ih =>
    have henter : (l.enter r source saying).lines = l.lines + 1 := by
      match saying with
      | .ok none => rfl
      | .ok (some record) => rfl
      | .error fault => rfl
    rw [List.foldl_cons, ih, henter, List.length_cons]
    omega

namespace Run

def failingFast (r : Run σ) (failFast : Bool) : Run σ :=
  { r with rules := { r.rules with failFast } }

variable (r : Run σ)

theorem take_failingFast (failFast : Bool) {line : List UInt8}
    (h : ¬ Malformed r.rules.maxLineLength line) (p : Progress σ) :
    (r.failingFast failFast).take p (.line line) = r.take p (.line line) := by
  obtain ⟨record?, hd⟩ := exists_ok_of_not_malformed h
  cases hs : p.status with
  | closed => rw [take_of_stopped _ (by simp [hs]), take_of_stopped _ (by simp [hs])]
  | failed fault => rw [take_of_stopped _ (by simp [hs]), take_of_stopped _ (by simp [hs])]
  | running =>
    rw [take_line_of_running _ hs, take_line_of_running _ hs]
    simp only [takeLine, failingFast, hd]
    cases record? with
    | none => rfl
    | some record => rfl

theorem takeAll_failingFast (failFast : Bool) {lines : List (List UInt8)}
    (h : ∀ line ∈ lines, ¬ Malformed r.rules.maxLineLength line) (p : Progress σ) :
    (r.failingFast failFast).takeAll (lines.map .line) p = r.takeAll (lines.map .line) p := by
  induction lines generalizing p with
  | nil => rfl
  | cons line lines ih =>
    obtain ⟨hline, hlines⟩ := List.forall_mem_cons.1 h
    rw [List.map_cons, takeAll_cons, takeAll_cons, r.take_failingFast failFast hline]
    exact ih hlines _

theorem takeAll_malformed {before : List (List UInt8)} {line : List UInt8} {fault : LineFault}
    (h : ∀ earlier ∈ before, ¬ Malformed r.rules.maxLineLength earlier)
    (hd : decodeLine r.rules.maxLineLength line = .error fault) (after : List (List UInt8))
    (p : Progress σ) :
    let q := r.takeAll (before.map .line) p
    q.status = .running →
    (r.failingFast true).takeAll ((before ++ line :: after).map .line) p =
      { q with
        linesSeen := q.linesSeen + 1
        status := .failed (.line (q.linesSeen + 1) fault) } := by
  intro q hq
  have hline : (r.failingFast true).takeLine line q =
      { q with
        linesSeen := q.linesSeen + 1
        status := .failed (.line (q.linesSeen + 1) fault) } := by
    simp only [takeLine, failingFast, hd, if_true]
  rw [List.map_append, List.map_cons, takeAll_append, r.takeAll_failingFast true h, takeAll_cons,
    take_line_of_running _ hq, hline]
  exact takeAll_of_stopped _ (by simp) _

theorem takeAll_lines_of_lenient (skip : r.rules.failFast = false) {desk : Desk σ}
    (accepts : desk.sink.Accepts) (lines : List (List UInt8)) :
    ∃ d tally, d.sink.Accepts ∧
      r.takeAll (lines.map .line) { desk } = { desk := d, linesSeen := lines.length, tally } := by
  let said := lines.map (decodeLine r.rules.maxLineLength)
  let l := said.foldl (Ledger.enter r.reporter r.source) { desk }
  have start := Ledger.balanced_start (r := r.reporter) accepts
  have hlines : l.lines = lines.length := by
    rw [Ledger.lines_foldl_enter, List.length_map, Nat.zero_add]
  refine ⟨l.desk, l.tally, (start.foldl r.source said).accepts, ?_⟩
  rw [← hlines]
  exact r.takeAll_lines skip start lines

end Run

def strict (f : Feed) : Feed := { f with rules := { f.rules with failFast := true } }

def lenient (f : Feed) : Feed := { f with rules := { f.rules with failFast := false } }

end FlowLines.Feed
