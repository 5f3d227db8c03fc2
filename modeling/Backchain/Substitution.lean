import Backchain.Term.Alpha
import Backchain.Term.Printer

/-! Substitutions: finite maps from variables to terms that replace all their variables at once.
Only free occurrences are replaced, and a binder is renamed exactly where a replacement mentions it.
-/

namespace Backchain

/-- A finite, ordered map from variables to the terms that replace them. -/
structure Substitution where
  bindings : VarMap Term

namespace Substitution

/-- The substitution that replaces nothing. -/
def identity : Substitution := ⟨VarMap.empty⟩

instance : Inhabited Substitution := ⟨identity⟩

/-- The term bound to a variable. -/
def get? (s : Substitution) (x : Variable) : Option Term := s.bindings.get? x

/-- Whether a variable is bound. -/
def contains (s : Substitution) (x : Variable) : Bool := s.bindings.contains x

/-- Whether nothing is bound. -/
def isIdentity (s : Substitution) : Bool := s.bindings.isEmpty

/-- The number of bindings. -/
def size (s : Substitution) : Nat := s.bindings.size

/-- The bound variables in order. -/
def domain (s : Substitution) : List Variable := s.bindings.keys

/-- The terms bound, in the order of their variables. -/
def range (s : Substitution) : List Term := s.bindings.values

/-- The bindings in the order of their variables. -/
def toList (s : Substitution) : List (Variable × Term) := s.bindings.entries

/-- Binds a variable, over any binding it has. A variable bound to itself is left unbound. -/
def bind (s : Substitution) (x : Variable) : Term → Substitution
  | .var y => ⟨if y = x then s.bindings.erase x else s.bindings.insert x (.var y)⟩
  | t => ⟨s.bindings.insert x t⟩

/-- The substitution of one variable. -/
def singleton (x : Variable) (t : Term) : Substitution := identity.bind x t

/-- Binds the variables of a list in turn, so that a later binding wins. -/
def ofList (bindings : List (Variable × Term)) : Substitution :=
  bindings.foldl (fun s binding => s.bind binding.1 binding.2) identity

-----------------------------------------------------------------------------------------
-- Application
-----------------------------------------------------------------------------------------

/-- The bindings that matter below a binder: those of other variables that are free in the body. -/
def below (s : Substitution) (binder : Variable) (bodyVars : VarSet) : Substitution :=
  ⟨s.bindings.filter (fun x _ => x ≠ binder && bodyVars.contains x)⟩

/-- Whether some bound term mentions a variable. -/
def mentions (s : Substitution) (x : Variable) : Bool := s.range.any (Term.occursFree x)

/-- A name for a binder that is free neither in its body nor in a term inserted there. -/
def freshBinder (s : Substitution) (binder : Variable) (bodyVars : VarSet) : Variable :=
  binder.freshFor ((bodyVars.insert binder).union (Term.freeVarsAll s.range)).toList

mutual
/-- Replaces the free occurrences of the bound variables, renaming the binders that would capture
a variable of a replacement.
-/
def apply (s : Substitution) : Term → Term
  | .var x => (s.get? x).getD (.var x)
  | .app head args => .app head (applyAll s args)
  | .abs binder body =>
      let inner := s.below binder body.freeVars
      if inner.isIdentity then .abs binder body
      else if inner.mentions binder then
        let fresh := inner.freshBinder binder body.freeVars
        .abs fresh (apply ⟨inner.bindings.insert binder (.var fresh)⟩ body)
      else .abs binder (apply inner body)

/-- Applies a substitution to every term of a list. -/
def applyAll (s : Substitution) : List Term → List Term
  | [] => []
  | t :: rest => apply s t :: applyAll s rest
end

theorem applyAll_eq_map (s : Substitution) (ts : List Term)
    : s.applyAll ts = ts.map s.apply := by
  induction ts with
  | nil => rfl
  | cons t rest ih => simp [applyAll, ih]

/-- The substitution that has the effect of `s` and then `o`. -/
def andThen (s o : Substitution) : Substitution :=
  let first :=
    s.toList.foldl (fun acc binding => acc.bind binding.1 (o.apply binding.2)) identity
  o.toList.foldl
    (fun acc binding => if s.contains binding.1 then acc else acc.bind binding.1 binding.2)
    first

-----------------------------------------------------------------------------------------
-- Comparison and display
-----------------------------------------------------------------------------------------

/-- Whether two binding lists bind the same variables, in order, to equal terms. -/
def sameBindings : List (Variable × Term) → List (Variable × Term) → Bool
  | [], [] => true
  | (x, t) :: rest, (y, u) :: others => x = y && t.alphaEq u && sameBindings rest others
  | _, _ => false

/-- Whether two substitutions bind the same variables to equal terms, up to bound names. -/
def alphaEq (s o : Substitution) : Bool := sameBindings s.toList o.toList

/-- A substitution as it is displayed. -/
def display (s : Substitution) : String :=
  "[" ++ ", ".intercalate
    (s.toList.map (fun binding => binding.1.display ++ " := " ++ binding.2.display)) ++ "]"

/-- A substitution with the name of its type and its terms between backticks. -/
def describe (s : Substitution) : String :=
  "Substitution \x7b map: \x7b"
    ++ ", ".intercalate
      (s.toList.map (fun binding => binding.1.display ++ ": " ++ binding.2.ticked))
    ++ "\x7d \x7d"

end Substitution

end Backchain
