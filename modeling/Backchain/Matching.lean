import Backchain.Substitution

/-! One-way matching of a pattern against a target. The free variables of the pattern stand for
terms, while the target is rigid. Binders are matched up to their names, and a variable bound inside
the target never becomes part of a binding.
-/

namespace Backchain

/-- The binder pairs entered by a match, the pattern's and the target's, innermost first. -/
abbrev BinderPairs := List (Variable × Variable)

namespace BinderPairs

/-- The distance to the pair whose pattern side binds a variable. -/
def patternIndex? (pairs : BinderPairs) (x : Variable) : Option Nat :=
  pairs.findIdx? (fun pair => pair.1 = x)

/-- The distance to the pair whose target side binds a variable. -/
def targetIndex? (pairs : BinderPairs) (x : Variable) : Option Nat :=
  pairs.findIdx? (fun pair => pair.2 = x)

/-- Whether a term of the target mentions a variable bound inside the target. -/
def escapes (pairs : BinderPairs) (target : Term) : Bool :=
  !pairs.isEmpty && target.freeVars.toList.any (fun x => (pairs.targetIndex? x).isSome)

end BinderPairs

namespace Term

/-- Binds a pattern variable to a term, or compares the term with the one already bound. -/
def bindOrCompare (found : VarMap Term) (x : Variable) (target : Term) : Option (VarMap Term) :=
  match found.get? x with
  | some previous => if previous.alphaEq target then some found else none
  | none => some (found.insert x target)

mutual
/-- Extends the bindings found so far so that the pattern becomes the target. -/
def matchIn (pairs : BinderPairs) : Term → Term → VarMap Term → Option (VarMap Term)
  | .var x, target, found =>
      match pairs.patternIndex? x with
      | some index =>
          match target with
          | .var y => if pairs.targetIndex? y = some index then some found else none
          | _ => none
      | none => if pairs.escapes target then none else bindOrCompare found x target
  | .app head args, .app other targets, found =>
      if head = other then matchAll pairs args targets found else none
  | .abs x body, .abs y target, found => body.matchIn ((x, y) :: pairs) target found
  | _, _, _ => none

/-- Matches argument lists of one length from left to right. -/
def matchAll (pairs : BinderPairs) : List Term → List Term → VarMap Term → Option (VarMap Term)
  | [], [], found => some found
  | t :: rest, target :: targets, found =>
      (t.matchIn pairs target found).bind (matchAll pairs rest targets)
  | _, _, _ => none
end

/-- The substitution of the pattern's free variables that makes it equal to the target. -/
def match? (pattern target : Term) : Option Substitution :=
  (pattern.matchIn [] target VarMap.empty).map (fun found => Substitution.ofList found.entries)

end Term

end Backchain
