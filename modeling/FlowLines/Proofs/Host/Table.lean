import FlowLines.Host.Table
import Mathlib.Data.List.Induction
import Mathlib.Data.List.Nodup

/-! Tables of hosts as they come about from pairs: every host stands where it was first given, under
the name that it was given last. -/

namespace FlowLines.Host.Table

theorem insert_of_notMem {t : Table} {host : String} (h : host ∉ t.map Prod.fst) (name : String) :
    t.insert host name = t ++ [(host, name)] := by
  induction t with
  | nil => rfl
  | cons p t ih =>
    rw [List.map_cons, List.mem_cons, not_or] at h
    rw [insert, if_neg (Ne.symm h.1), ih h.2, List.cons_append]

theorem map_fst_insert (t : Table) (host name : String) : (t.insert host name).map Prod.fst =
    if host ∈ t.map Prod.fst then t.map Prod.fst else t.map Prod.fst ++ [host] := by
  split
  · next h =>
    induction t with
    | nil => cases h
    | cons p t ih =>
      rw [insert]
      split
      · rfl
      · next hne =>
        rw [List.map_cons, List.map_cons, ih]
        exact (List.mem_cons.1 h).resolve_left (Ne.symm hne)
  · next h =>
    rw [insert_of_notMem h, List.map_append]
    rfl

theorem ofPairs_concat (pairs : List (String × String)) (p : String × String) :
    ofPairs (pairs ++ [p]) = (ofPairs pairs).insert p.1 p.2 := List.foldl_concat ..

theorem eraseDups_concat (hosts : List String) (host : String) : (hosts ++ [host]).eraseDups =
    if host ∈ hosts.eraseDups then hosts.eraseDups else hosts.eraseDups ++ [host] := by
  rw [List.eraseDups_append, List.removeAll]
  split
  · next h => simp [List.mem_eraseDups.1 h]
  · next h => simp [mt List.mem_eraseDups.2 h, List.eraseDups_cons]

theorem map_fst_ofPairs (pairs : List (String × String)) :
    (ofPairs pairs).map Prod.fst = (pairs.map Prod.fst).eraseDups := by
  induction pairs using List.reverseRecOn with
  | nil => rfl
  | append_singleton pairs p ih =>
    rw [ofPairs_concat, map_fst_insert, ih, List.map_append, List.map_singleton, eraseDups_concat]

theorem name?_ofPairs (pairs : List (String × String)) (host : String) :
    (ofPairs pairs).name? host = name? pairs.reverse host := by
  induction pairs using List.reverseRecOn with
  | nil => rfl
  | append_singleton pairs p ih =>
    rw [ofPairs_concat, name?_insert, ih, List.reverse_append, List.reverse_singleton,
      List.singleton_append, name?_cons]

theorem ofPairs_of_nodup {pairs : List (String × String)} (h : (pairs.map Prod.fst).Nodup) :
    ofPairs pairs = pairs := by
  induction pairs using List.reverseRecOn with
  | nil => rfl
  | append_singleton pairs p ih =>
    rw [List.map_append, List.map_singleton] at h
    obtain ⟨hpairs, -, hfresh⟩ := List.nodup_append.1 h
    rw [ofPairs_concat, ih hpairs]
    exact insert_of_notMem (fun hmem => hfresh p.1 hmem p.1 (List.mem_singleton.2 rfl) rfl) p.2

end FlowLines.Host.Table
