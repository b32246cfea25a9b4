import FlowLines.Feed
import FlowLines.Proofs.Text.Utf8
import Mathlib.Data.List.DropRight

/-! The lines of an input, said without the loop that cuts them, and what each of them means.
However the bytes are delivered, the same lines come out. -/

namespace FlowLines.Feed

/-- The pieces between line feeds.  What follows the last line feed is a line unless it is
empty. -/
def lines (bytes : List UInt8) : List (List UInt8) :=
  let pieces := bytes.splitOn lineFeed
  if pieces.getLast? = some [] then pieces.dropLast else pieces

theorem cutBytes_append (unfinished : List UInt8) (done : List Piece) (a b : List UInt8) :
    cutBytes unfinished done (a ++ b) =
      cutBytes (cutBytes unfinished done a).1 (cutBytes unfinished done a).2 b := by
  induction a generalizing unfinished done with
  | nil => rfl
  | cons x a ih =>
    rw [List.cons_append, cutBytes, cutBytes]
    split
    · exact ih [] _
    · exact ih (x :: unfinished) done

theorem cutFrom_bytes_append (unfinished : List UInt8) (done : List Piece)
    (parts : List (List UInt8)) (later : List Delivery) :
    cutFrom unfinished done (parts.map .bytes ++ later) =
      cutFrom unfinished done (.bytes parts.flatten :: later) := by
  induction parts generalizing unfinished done with
  | nil => rfl
  | cons a parts ih =>
    rw [List.map_cons, List.cons_append, List.flatten_cons]
    simp only [cutFrom, cutBytes_append, ih]

/-- The scan keeps the pieces that are finished and the one that is not, both last first. -/
theorem cutBytes_eq (unfinished : List UInt8) (done : List Piece) (bytes : List UInt8) :
    ∃ pieces last,
      bytes.splitOnPPrepend (· == lineFeed) unfinished = pieces ++ [last] ∧
      cutBytes unfinished done bytes = (last.reverse, (pieces.map .line).reverse ++ done) := by
  induction bytes generalizing unfinished done with
  | nil => exact ⟨[], unfinished.reverse, by simp, by simp [cutBytes]⟩
  | cons b bytes ih =>
    by_cases h : b = lineFeed
    · obtain ⟨pieces, last, hs, hc⟩ := ih [] (.line unfinished.reverse :: done)
      refine ⟨unfinished.reverse :: pieces, last, ?_, ?_⟩
      · rw [List.splitOnPPrepend_cons_pos (by simpa using h), ← List.splitOnPPrepend_nil_right, hs]
        rfl
      · rw [cutBytes, if_pos h, hc]
        simp
    · obtain ⟨pieces, last, hs, hc⟩ := ih (b :: unfinished) done
      refine ⟨pieces, last, ?_, ?_⟩
      · rw [List.splitOnPPrepend_cons_neg (by simpa using h), hs]
      · rw [cutBytes, if_neg h, hc]

/-- Only the bytes decide on the lines, not the parts in which they come. -/
theorem cut_bytes (parts : List (List UInt8)) :
    cut (parts.map .bytes) = (lines parts.flatten).map .line := by
  obtain ⟨pieces, last, hs, hc⟩ := cutBytes_eq [] [] parts.flatten
  rw [List.splitOnPPrepend_nil_right, ← List.splitOn_eq_splitOnP] at hs
  have hparts := cutFrom_bytes_append [] [] parts []
  rw [List.append_nil] at hparts
  rw [cut, hparts, cutFrom]
  simp only [hc, cutFrom, lines, hs]
  cases last <;> simp

theorem splitOn_terminated {pieces : List (List UInt8)} (h : ∀ p ∈ pieces, lineFeed ∉ p) :
    (pieces.flatMap (· ++ [lineFeed])).splitOn lineFeed = pieces ++ [[]] := by
  induction pieces with
  | nil => exact List.splitOn_nil lineFeed
  | cons p pieces ih =>
    rw [List.flatMap_cons, List.append_assoc, List.singleton_append,
      List.splitOn_append_cons_self_of_not_mem (h p List.mem_cons_self),
      ih fun q hq => h q (List.mem_cons_of_mem p hq), List.cons_append]

theorem count_terminated {pieces : List (List UInt8)} (h : ∀ p ∈ pieces, lineFeed ∉ p) :
    (pieces.flatMap (· ++ [lineFeed])).count lineFeed = pieces.length := by
  induction pieces with
  | nil => rfl
  | cons p pieces ih =>
    have hp : p.count lineFeed = 0 := List.count_eq_zero.2 (h p List.mem_cons_self)
    rw [List.flatMap_cons, List.count_append, List.count_append, hp,
      ih fun q hq => h q (List.mem_cons_of_mem p hq), List.length_cons]
    exact Nat.add_comm 1 pieces.length

theorem lines_append_cons {line : List UInt8} (h : lineFeed ∉ line) (rest : List UInt8) :
    lines (line ++ lineFeed :: rest) = line :: lines rest := by
  have hne : rest.splitOn lineFeed ≠ [] := List.splitOn_ne_nil lineFeed rest
  simp only [lines, List.splitOn_append_cons_self_of_not_mem h, List.getLast?_cons,
    List.getLast?_eq_some_getLast hne, Option.getD_some, List.dropLast_cons_of_ne_nil hne]
  split <;> rfl

theorem lines_of_notMem {bytes : List UInt8} (h : lineFeed ∉ bytes) :
    lines bytes = if bytes = [] then [] else [bytes] := by
  rw [lines, List.splitOn_eq_singleton h]
  simp

@[elab_as_elim]
theorem lines_induction {P : List UInt8 → Prop}
    (unfinished : ∀ bytes, lineFeed ∉ bytes → P bytes)
    (line : ∀ line rest, lineFeed ∉ line → P rest → P (line ++ lineFeed :: rest))
    (bytes : List UInt8) : P bytes := by
  induction hlength : bytes.length using Nat.strongRecOn generalizing bytes with
  | ind n ih =>
    by_cases hmem : lineFeed ∈ bytes
    · obtain ⟨first, rest, rfl, hfirst⟩ := List.eq_append_cons_of_mem hmem
      apply line first rest hfirst
      apply ih rest.length _ rest rfl
      rw [← hlength, List.length_append, List.length_cons]
      omega
    · exact unfinished bytes hmem

def finished (bytes : List UInt8) : List UInt8 := bytes.rdropWhile (· != lineFeed)

def EndsLine (bytes : List UInt8) : Prop := ∀ b ∈ bytes.getLast?, b = lineFeed

theorem endsLine_append {a b : List UInt8} (h : EndsLine a) : EndsLine (a ++ b) ↔ EndsLine b := by
  cases b using List.reverseRecOn with
  | nil => simpa [EndsLine] using h
  | append_singleton b x => simp [EndsLine, ← List.append_assoc]

theorem finished_eq_self_iff {bytes : List UInt8} : finished bytes = bytes ↔ EndsLine bytes := by
  rw [finished, List.rdropWhile_eq_self_iff]
  cases bytes using List.reverseRecOn with
  | nil => simp [EndsLine]
  | append_singleton bytes b => simp [EndsLine]

theorem cutBytes_finished (done : List Piece) (bytes : List UInt8) :
    cutBytes [] done (finished bytes) = ([], (cutBytes [] done bytes).2) := by
  induction bytes using List.reverseRecOn with
  | nil => rfl
  | append_singleton bytes b ih =>
    by_cases hb : b = lineFeed
    · rw [finished_eq_self_iff.2 (by simp [EndsLine, hb]), cutBytes_append, cutBytes, if_pos hb]
      rfl
    · rw [finished, List.rdropWhile_concat_pos _ _ _ (by simpa using hb), cutBytes_append, cutBytes,
        if_neg hb]
      exact ih

open FlowLines.Flow (Record)

/-- What a line turns out to be: malformed, blank, or a record. -/
abbrev Saying := Except LineFault (Option Record)

/-- What a line says once its carriage return is off, in the order in which it is asked: a line
that is too long is not looked into, and blanks make no record. -/
inductive Says (limit : Nat) (line : List UInt8) : Saying → Prop
  | tooLong (long : limit < (dropReturn line).length) :
    Says limit line (.error (.tooLong (dropReturn line).length limit))
  | notUtf8 {fault} (fits : (dropReturn line).length ≤ limit)
    (unspelled : ∀ text, dropReturn line ≠ Text.Utf8.encode text) :
    Says limit line (.error (.notUtf8 fault))
  | blank {text} (fits : (dropReturn line).length ≤ limit)
    (spelled : dropReturn line = Text.Utf8.encode text) (blank : ∀ c ∈ text, Text.isBlank c) :
    Says limit line (.ok none)
  | notRecord {text fault} (fits : (dropReturn line).length ≤ limit)
    (spelled : dropReturn line = Text.Utf8.encode text) (shown : ∃ c ∈ text, ¬ Text.isBlank c)
    (refused : Record.ofLine text = .error fault) : Says limit line (.error (.notRecord fault))
  | record {text record} (fits : (dropReturn line).length ≤ limit)
    (spelled : dropReturn line = Text.Utf8.encode text) (shown : ∃ c ∈ text, ¬ Text.isBlank c)
    (read : Record.ofLine text = .ok record) : Says limit line (.ok (some record))

theorem isEmpty_trimStart_iff {s : List Char} :
    (Text.trimStart s).isEmpty ↔ ∀ c ∈ s, Text.isBlank c := by
  rw [List.isEmpty_iff, Text.trimStart_eq_nil_iff]

theorem says_decodeLine (limit : Nat) (line : List UInt8) :
    Says limit line (decodeLine limit line) := by
  unfold decodeLine
  simp only []
  split
  · next long => exact .tooLong long
  · next fits =>
    have fits : (dropReturn line).length ≤ limit := Nat.le_of_not_lt fits
    cases hd : Text.Utf8.decode (dropReturn line) with
    | error fault =>
      refine .notUtf8 fits fun text h => ?_
      rw [Text.Utf8.decode_eq_ok_iff.2 h] at hd
      contradiction
    | ok text =>
      have spelled := Text.Utf8.decode_eq_ok_iff.1 hd
      dsimp only
      split
      · next blank => exact .blank fits spelled (isEmpty_trimStart_iff.1 blank)
      · next shown =>
        rw [isEmpty_trimStart_iff] at shown
        have shown : ∃ c ∈ text, ¬ Text.isBlank c := by simpa using shown
        cases read : Record.ofLine text with
        | error fault => exact .notRecord fits spelled shown read
        | ok record => exact .record fits spelled shown read

end FlowLines.Feed
