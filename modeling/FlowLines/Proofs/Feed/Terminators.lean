import FlowLines.Proofs.Feed.Sayings

/-! How lines end does not show: with a line feed, with a carriage return in front of it, or, at the
end of the input, with neither. -/

namespace FlowLines.Feed

variable {σ : Type}

def withReturns (bytes : List UInt8) : List UInt8 :=
  bytes.flatMap fun b => if b = lineFeed then [carriageReturn, lineFeed] else [b]

theorem withReturns_of_notMem {bytes : List UInt8} (h : lineFeed ∉ bytes) :
    withReturns bytes = bytes := by
  induction bytes with
  | nil => rfl
  | cons b bytes ih =>
    rw [List.mem_cons, not_or] at h
    obtain ⟨hb, hbytes⟩ := h
    rw [withReturns, List.flatMap_cons, if_neg (Ne.symm hb), List.singleton_append]
    exact congrArg (b :: ·) (ih hbytes)

theorem withReturns_append_cons {line : List UInt8} (h : lineFeed ∉ line) (rest : List UInt8) :
    withReturns (line ++ lineFeed :: rest) =
      line ++ [carriageReturn] ++ lineFeed :: withReturns rest := by
  rw [List.append_assoc, withReturns, List.flatMap_append]
  exact congrArg (· ++ _) (withReturns_of_notMem h)

def Returnless (bytes : List UInt8) : Prop :=
  ∀ line ∈ lines bytes, line.getLast? ≠ some carriageReturn

instance (bytes : List UInt8) : Decidable (Returnless bytes) :=
  inferInstanceAs (Decidable (∀ line ∈ lines bytes, line.getLast? ≠ some carriageReturn))

theorem dropReturn_of_ne {line : List UInt8} (h : line.getLast? ≠ some carriageReturn) :
    dropReturn line = line := if_neg h

theorem dropReturn_concat (line : List UInt8) : dropReturn (line ++ [carriageReturn]) = line := by
  rw [dropReturn, if_pos List.getLast?_concat, List.dropLast_concat]

theorem decodeLine_concat (limit : Nat) {line : List UInt8}
    (h : line.getLast? ≠ some carriageReturn) :
    decodeLine limit (line ++ [carriageReturn]) = decodeLine limit line := by
  simp only [decodeLine, dropReturn_concat, dropReturn_of_ne h]

theorem said_withReturns (limit : Nat) {bytes : List UInt8} (h : Returnless bytes) :
    (lines (withReturns bytes)).map (decodeLine limit) =
      (lines bytes).map (decodeLine limit) := by
  induction bytes using lines_induction with
  | unfinished bytes hmem => rw [withReturns_of_notMem hmem]
  | line line rest hline ih =>
    rw [Returnless, lines_append_cons hline] at h
    obtain ⟨hreturn, hrest⟩ := List.forall_mem_cons.1 h
    have hmem : lineFeed ∉ line ++ [carriageReturn] := by
      rw [List.mem_append, List.mem_singleton]
      exact not_or.2 ⟨hline, by decide⟩
    rw [withReturns_append_cons hline, lines_append_cons hmem, lines_append_cons hline,
      List.map_cons, List.map_cons, decodeLine_concat limit hreturn, ih hrest]

theorem lines_concat (bytes : List UInt8) :
    lines (bytes ++ [lineFeed]) = lines bytes ∨
      lines (bytes ++ [lineFeed]) = lines bytes ++ [[]] := by
  induction bytes using lines_induction with
  | unfinished bytes hmem =>
    rw [lines_append_cons hmem, lines_of_notMem hmem]
    by_cases hempty : bytes = []
    · right
      rw [if_pos hempty, hempty]
      rfl
    · left
      rw [if_neg hempty]
      rfl
  | line line rest hline ih =>
    rw [List.append_assoc, List.cons_append, lines_append_cons hline, lines_append_cons hline]
    rcases ih with same | more
    · left
      rw [same]
    · right
      rw [more, List.cons_append]

theorem Returnless.concat {bytes : List UInt8} (h : Returnless bytes) :
    Returnless (bytes ++ [lineFeed]) := by
  rcases lines_concat bytes with same | more
  · rwa [Returnless, same]
  · rw [Returnless, more]
    exact List.forall_mem_append.2 ⟨h, by simp⟩

theorem decodeLine_nil (limit : Nat) : decodeLine limit [] = .ok none :=
  decodeLine_eq_none_iff.2 ⟨Nat.zero_le limit, [], rfl, by simp⟩

theorem run_concat (f : Feed) (reporter : Reporter σ) (source : String)
    {parts parts' : List (List UInt8)} (desk : Desk σ)
    (h : parts'.flatten = parts.flatten ++ [lineFeed]) :
    f.run reporter source (parts'.map .bytes) desk =
      f.run reporter source (parts.map .bytes) desk := by
  rcases lines_concat parts.flatten with same | more
  · apply f.run_congr
    rw [h, same]
  · apply f.run_concat_blank
    rw [h, more, List.map_append, List.map_singleton, decodeLine_nil]

theorem run_withReturns (f : Feed) (reporter : Reporter σ) (source : String)
    {parts parts' : List (List UInt8)} (desk : Desk σ) (returnless : Returnless parts.flatten)
    (h : parts'.flatten = withReturns parts.flatten) :
    f.run reporter source (parts'.map .bytes) desk =
      f.run reporter source (parts.map .bytes) desk := by
  apply f.run_congr
  rw [h, said_withReturns _ returnless]

/-- The run, with all that it leaves, is the same where the input has one more line feed at its end;
and if none of its lines ends in a carriage return, where every line feed has one in front. -/
theorem run_terminators (f : Feed) (reporter : Reporter σ) (source : String)
    (parts parts' : List (List UInt8)) (desk : Desk σ) :
    let bytes := parts.flatten
    (parts'.flatten = bytes ++ [lineFeed] →
      f.run reporter source (parts'.map .bytes) desk =
        f.run reporter source (parts.map .bytes) desk) ∧
    (Returnless bytes →
      parts'.flatten = withReturns bytes ∨ parts'.flatten = withReturns bytes ++ [lineFeed] ∨
        parts'.flatten = withReturns (bytes ++ [lineFeed]) →
      f.run reporter source (parts'.map .bytes) desk =
        f.run reporter source (parts.map .bytes) desk) := by
  intro bytes
  refine ⟨f.run_concat reporter source desk, ?_⟩
  intro returnless changed
  -- a line feed added behind the others' returns goes first, one with a return of its own last
  rcases changed with h | h | h
  · exact f.run_withReturns reporter source desk returnless h
  · have hreturns : [withReturns bytes].flatten = withReturns bytes := List.flatten_singleton
    rw [← hreturns] at h
    exact (f.run_concat reporter source desk h).trans
      (f.run_withReturns reporter source desk returnless hreturns)
  · have hmore : [bytes ++ [lineFeed]].flatten = bytes ++ [lineFeed] := List.flatten_singleton
    rw [← hmore] at h
    exact (f.run_withReturns reporter source desk (by rw [hmore]; exact returnless.concat) h).trans
      (f.run_concat reporter source desk hmore)

theorem run_terminators_at_limit :
    let reporter : Reporter Unit := ⟨Layout.line "x", Host.Resolver.raw, none⟩
    let line := Text.Utf8.encode "\x7b\"flows\":[]\x7d".toList
    let f : Feed := { rules := { failFast := true, maxLineLength := line.length } }
    let parts := [line]
    let parts' := [line ++ [carriageReturn], [lineFeed]]
    let desk : Desk Unit := { memory := () }
    Returnless parts.flatten ∧ parts'.flatten = withReturns (parts.flatten ++ [lineFeed]) ∧
    f.run reporter standardInput (parts'.map .bytes) desk =
      f.run reporter standardInput (parts.map .bytes) desk ∧
    (f.run reporter standardInput (parts.map .bytes) desk).1.toOption = some { recordsRead := 1 } := by
  intro reporter line f parts parts' desk
  have returnless : Returnless parts.flatten := by decide +kernel
  have hparts' : parts'.flatten = withReturns (parts.flatten ++ [lineFeed]) := by decide +kernel
  obtain ⟨-, same⟩ := run_terminators f reporter standardInput parts parts' desk
  exact ⟨returnless, hparts', same returnless (.inr (.inr hparts')), by decide +kernel⟩

end FlowLines.Feed
