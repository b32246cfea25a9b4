import FlowLines.Host.Address

/-! A bounded memory of names by address.  Every use is stamped with a count of uses, and where
there is no room the name that has not been used for longest makes way. -/

namespace FlowLines.Host

structure CachedName where
  address : Address
  name : String
  lastUsed : Nat
  deriving DecidableEq, Repr

structure NameCache where
  names : List CachedName := []
  uses : Nat := 0
  deriving DecidableEq, Repr, Inhabited

namespace NameCache

def capacity : Nat := 1000

def holds (c : NameCache) (a : Address) : Bool := c.names.any (·.address = a)

def get? (c : NameCache) (a : Address) : Option String × NameCache :=
  let uses := c.uses + 1
  let touch (n : CachedName) : CachedName :=
    if n.address = a then { n with lastUsed := uses } else n
  ((c.names.find? (·.address = a)).map (·.name), { names := c.names.map touch, uses })

def oldest? (names : List CachedName) : Option CachedName :=
  names.foldl (fun best n =>
    match best with
    | none => some n
    | some b => if n.lastUsed < b.lastUsed then some n else some b) none

def drop (names : List CachedName) (a : Address) : List CachedName :=
  names.filter (·.address ≠ a)

def insert (c : NameCache) (a : Address) (name : String) : NameCache :=
  let kept :=
    if capacity ≤ c.names.length && !c.holds a then
      match oldest? c.names with
      | some n => drop c.names n.address
      | none => c.names
    else c.names
  { names := ⟨a, name, c.uses + 1⟩ :: drop kept a, uses := c.uses + 1 }

end NameCache

end FlowLines.Host
