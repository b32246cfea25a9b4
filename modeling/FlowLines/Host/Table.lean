/-! Fixed names for hosts. -/

namespace FlowLines.Host

abbrev Table := List (String × String)

namespace Table

/-- A host that is there already keeps its place and gets the new name. -/
def insert (host name : String) : Table → Table
  | [] => [(host, name)]
  | (h, n) :: t => if h = host then (h, name) :: t else (h, n) :: insert host name t

def ofPairs (pairs : List (String × String)) : Table :=
  pairs.foldl (fun t (host, name) => t.insert host name) []

def name? (t : Table) (host : String) : Option String := List.lookup host t

theorem name?_cons (h n host : String) (t : Table) :
    name? ((h, n) :: t) host = if host = h then some n else name? t host := by
  by_cases e : host = h
  · simp [name?, e]
  · have : (host == h) = false := beq_eq_false_iff_ne.2 e
    simp [name?, List.lookup_cons, e, this]

theorem name?_insert (t : Table) (host name other : String) :
    (t.insert host name).name? other = if other = host then some name else t.name? other := by
  induction t with
  | nil => simp [insert, name?_cons]
  | cons p t ih =>
    obtain ⟨h, n⟩ := p
    by_cases e : h = host
    · subst e; by_cases f : other = h <;> simp [insert, name?_cons, f]
    · by_cases f : other = h <;> simp_all [insert, name?_cons]

end Table

end FlowLines.Host
