import Backchain.Variable.Set

/-! Terms: variables, constructors applied to arguments, and binders. A constant is a constructor
with no arguments. Functions on terms come in pairs, one for a term and one for an argument list.
-/

namespace Backchain

/-- A term is a variable, a constructor applied to arguments, or a binder over a body. -/
inductive Term where
  | var (x : Variable)
  | app (head : Symbol) (args : List Term)
  | abs (binder : Variable) (body : Term)
deriving Inhabited

namespace Term

/-- A constant is a constructor applied to nothing. -/
@[match_pattern] abbrev const (name : Symbol) : Term := .app name []

/-- Induction on terms, with a hypothesis for every argument of a constructor. -/
@[induction_eliminator]
theorem induct {motive : Term → Prop} (var : ∀ x, motive (.var x))
    (app : ∀ head args, (∀ arg ∈ args, motive arg) → motive (.app head args))
    (abs : ∀ binder body, motive body → motive (.abs binder body))
    : ∀ t, motive t := by
  intro t
  refine Term.rec (motive_1 := motive) (motive_2 := fun args => ∀ arg ∈ args, motive arg)
    var app abs (fun _ h => nomatch h) (fun first rest hf hr arg hm => ?_) t
  rcases List.mem_cons.mp hm with rfl | hm
  · exact hf
  · exact hr arg hm

/-- The constructor at the head of a term. -/
def head? : Term → Option Symbol
  | .app head _ => some head
  | _ => none

/-- The arguments of a constructor. Variables and binders have none. -/
def args : Term → List Term
  | .app _ args => args
  | _ => []

/-- The immediate subterms: the arguments of a constructor or the body of a binder. -/
def children : Term → List Term
  | .var _ => []
  | .app _ args => args
  | .abs _ body => [body]

/-- A constructor with one argument, applied `n` times. -/
def iterate (head : Symbol) (t : Term) : Nat → Term
  | 0 => t
  | n + 1 => .app head [iterate head t n]

/-- A binder of one variable, repeated `n` times. -/
def iterateBinder (binder : Variable) (t : Term) : Nat → Term
  | 0 => t
  | n + 1 => .abs binder (iterateBinder binder t n)

-----------------------------------------------------------------------------------------
-- Free variables
-----------------------------------------------------------------------------------------

mutual
/-- The variables that occur in a term outside the reach of a binder of theirs. -/
def freeVars : Term → VarSet
  | .var x => VarSet.singleton x
  | .app _ args => freeVarsAll args
  | .abs binder body => body.freeVars.erase binder

/-- The variables free in some term of a list. -/
def freeVarsAll : List Term → VarSet
  | [] => VarSet.empty
  | t :: rest => t.freeVars.union (freeVarsAll rest)
end

mutual
/-- Whether a variable occurs free in a term, found without listing its free variables. -/
def occursFree (x : Variable) : Term → Bool
  | .var y => y = x
  | .app _ args => occursFreeAny x args
  | .abs binder body => binder ≠ x && body.occursFree x

/-- Whether a variable occurs free in some term of a list. -/
def occursFreeAny (x : Variable) : List Term → Bool
  | [] => false
  | t :: rest => t.occursFree x || occursFreeAny x rest
end

/-- Whether a term has no free variables. -/
def isClosed (t : Term) : Bool := t.freeVars.isEmpty

theorem mem_freeVarsAll {x : Variable} {ts : List Term}
    : x ∈ freeVarsAll ts ↔ ∃ t ∈ ts, x ∈ t.freeVars := by
  induction ts with
  | nil => simp [freeVarsAll]
  | cons t rest ih => simp [freeVarsAll, ih]

end Term

end Backchain
