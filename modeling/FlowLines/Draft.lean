/-! Things of which some parts are known. -/

namespace FlowLines

abbrev Draft {κ : Type} (Value : κ → Type) : Type := (k : κ) → Option (Value k)

namespace Draft

variable {κ : Type} {Value : κ → Type}

def empty : Draft Value := fun _ => none

variable [DecidableEq κ]

def set (d : Draft Value) (k : κ) (v : Value k) : Draft Value := fun j =>
  if h : k = j then some (h ▸ v) else d j

@[simp] theorem set_same (d : Draft Value) (k : κ) (v : Value k) : d.set k v k = some v := by
  simp [set]

theorem set_of_ne (d : Draft Value) {j k : κ} (v : Value j) (h : j ≠ k) : d.set j v k = d k := by
  simp [set, h]

theorem set_comm (d : Draft Value) {j k : κ} (v : Value j) (w : Value k) (h : j ≠ k) :
    (d.set j v).set k w = (d.set k w).set j v := by
  funext i
  by_cases hj : j = i
  · subst hj; simp [set, Ne.symm h]
  · by_cases hk : k = i <;> simp [set, hj, hk]

end Draft

end FlowLines
