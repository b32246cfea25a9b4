import FlowLines.Yaml.Tree

/-! What aliases stand for.  Anchors are numbered: a name that is given again takes as its number
how many names there are, so that it may share one with the name that comes after it, and the
last node with a number has it. -/

namespace FlowLines.Yaml

/-- Nodes are held last first in the order of the document, in which the last one counts. -/
structure Anchors where
  numbers : List (List Char × Nat) := []
  nodes : List (Nat × Tree Nat) := []

namespace Anchors

def give (a : Anchors) (name : List Char) : Nat × Anchors :=
  let n := a.numbers.length
  (n, { a with numbers := (name, n) :: a.numbers.filter (·.1 ≠ name) })

def node? (a : Anchors) (n : Nat) : Option (Tree Nat) :=
  a.nodes.lookup n

end Anchors

namespace Tree

/-- Gives an anchor its number before `link` goes on inside of the node, and puts the node before
those inside of it. -/
def anchored (p : Properties) (a : Anchors)
    (link : Anchors → Option (Tree Nat × Anchors)) : Option (Tree Nat × Anchors) :=
  match p.anchor with
  | none => link a
  | some name => do
    let (n, given) := a.give name
    let (t, inner) ← link { given with nodes := [] }
    return (t, { inner with nodes := inner.nodes ++ (n, t) :: a.nodes })

mutual

def link : Tree (List Char) → Anchors → Option (Tree Nat × Anchors)
  | .alias name, a => do return (.alias (← a.numbers.lookup name), a)
  | .scalar p plain text, a => anchored p a fun a => some (.scalar p plain text, a)
  | .sequence p items, a => anchored p a fun a => do
    let (items, a) ← linkItems items a
    return (.sequence p items, a)
  | .mapping p members, a => anchored p a fun a => do
    let (members, a) ← linkMembers members a
    return (.mapping p members, a)

def linkItems : List (Tree (List Char)) → Anchors → Option (List (Tree Nat) × Anchors)
  | [], a => some ([], a)
  | t :: ts, a => do
    let (t, a) ← link t a
    let (ts, a) ← linkItems ts a
    return (t :: ts, a)

def linkMembers : List (Tree (List Char) × Tree (List Char)) → Anchors →
    Option (List (Tree Nat × Tree Nat) × Anchors)
  | [], a => some ([], a)
  | (k, v) :: ms, a => do
    let (k, a) ← link k a
    let (v, a) ← link v a
    let (ms, a) ← linkMembers ms a
    return ((k, v) :: ms, a)

end

mutual

def size {α : Type} : Tree α → Nat
  | .alias _ => 1
  | .scalar .. => 1
  | .sequence _ items => 2 + sizeItems items
  | .mapping _ members => 2 + sizeMembers members

def sizeItems {α : Type} : List (Tree α) → Nat
  | [] => 0
  | t :: ts => size t + sizeItems ts

def sizeMembers {α : Type} : List (Tree α × Tree α) → Nat
  | [] => 0
  | (k, v) :: ms => size k + size v + sizeMembers ms

end

end Tree

end FlowLines.Yaml
