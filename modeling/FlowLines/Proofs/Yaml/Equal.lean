import FlowLines.Yaml.Node

/-! Equality of nodes that hold no floating-point number can be decided. -/

namespace FlowLines.Yaml

def Scalar.is : Scalar → Scalar → Bool
  | .null, .null => true
  | .boolean a, .boolean b => a = b
  | .integer a, .integer b => a = b
  | .text a, .text b => a = b
  | _, _ => false

theorem Scalar.eq_of_is {a b : Scalar} (h : a.is b) : a = b := by
  cases a <;> cases b <;> simp_all [is]

namespace Node

mutual

def is : Node → Node → Bool
  | .scalar a, .scalar b => a.is b
  | .sequence a, .sequence b => isItems a b
  | .mapping a, .mapping b => isMembers a b
  | .tagged s a, .tagged t b => s = t && a.is b
  | _, _ => false

def isItems : List Node → List Node → Bool
  | [], [] => true
  | a :: as, b :: bs => a.is b && isItems as bs
  | _, _ => false

def isMembers : List (Node × Node) → List (Node × Node) → Bool
  | [], [] => true
  | (k, v) :: as, (k', v') :: bs => k.is k' && v.is v' && isMembers as bs
  | _, _ => false

end

mutual

theorem eq_of_is : ∀ {a b : Node}, a.is b → a = b
  | .scalar _, .scalar _, h => congrArg scalar (Scalar.eq_of_is (by simpa [is] using h))
  | .sequence _, .sequence _, h => congrArg sequence (eq_of_isItems (by simpa [is] using h))
  | .mapping _, .mapping _, h => congrArg mapping (eq_of_isMembers (by simpa [is] using h))
  | .tagged s a, .tagged t b, h => by
    simp only [is, Bool.and_eq_true, decide_eq_true_eq] at h
    rw [h.1, eq_of_is h.2]

theorem eq_of_isItems : ∀ {as bs : List Node}, isItems as bs → as = bs
  | [], [], _ => rfl
  | a :: as, b :: bs, h => by
    simp only [isItems, Bool.and_eq_true] at h
    rw [eq_of_is h.1, eq_of_isItems h.2]

theorem eq_of_isMembers : ∀ {as bs : List (Node × Node)}, isMembers as bs → as = bs
  | [], [], _ => rfl
  | (k, v) :: as, (k', v') :: bs, h => by
    simp only [isMembers, Bool.and_eq_true] at h
    rw [eq_of_is h.1.1, eq_of_is h.1.2, eq_of_isMembers h.2]

end

theorem ofText?_eq_some {text : List Char} {n : Node} (h : (ofText? text).any (·.is n)) :
    ofText? text = some n := by
  cases hread : ofText? text with
  | none =>
    rw [hread] at h
    cases h
  | some n' =>
    rw [hread] at h
    rw [eq_of_is h]

end Node

end FlowLines.Yaml
