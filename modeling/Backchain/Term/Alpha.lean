import Backchain.Term

/-! Equality of terms up to the names of bound variables. Two terms are compared under the list of
binder pairs already entered, innermost first.
-/

namespace Backchain

namespace Term

/-- Two variables agree under binder pairs when the innermost pair that mentions either of them
mentions both, or when no pair mentions them and they are equal.
-/
def alphaEqVar : List (Variable × Variable) → Variable → Variable → Bool
  | [], x, y => x = y
  | (left, right) :: outer, x, y =>
      if left = x ∨ right = y then left = x ∧ right = y else alphaEqVar outer x y

mutual
/-- Equality of terms under the binder pairs already entered. -/
def alphaEqIn (scope : List (Variable × Variable)) : Term → Term → Bool
  | .var x, .var y => alphaEqVar scope x y
  | .app f args, .app g others => f = g && alphaEqAll scope args others
  | .abs x body, .abs y other => body.alphaEqIn ((x, y) :: scope) other
  | _, _ => false

/-- Equality of argument lists, term by term and of one length. -/
def alphaEqAll (scope : List (Variable × Variable)) : List Term → List Term → Bool
  | [], [] => true
  | t :: rest, u :: others => t.alphaEqIn scope u && alphaEqAll scope rest others
  | _, _ => false
end

/-- Whether two terms are equal up to the names of their bound variables. -/
def alphaEq (t u : Term) : Bool := t.alphaEqIn [] u

end Term

end Backchain
