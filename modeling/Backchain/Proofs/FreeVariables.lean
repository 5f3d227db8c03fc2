import Backchain.Proofs.CaptureAvoidance

/-! The free variables of terms under substitution and up to bound names. A substitution puts in the
free variables of the terms that it has for those of the term, and neither a renamed binder nor a
binder left alone adds or takes away any. The free variables can be listed on the way back from the
leaves, collected on the way down, or asked for one by one, all with the same answer.
-/

namespace Backchain

namespace Substitution

/-- The free variables of an instance are those of the terms put in for the variables free in the
term, by induction on the term.
-/
theorem mem_freeVars_apply {s : Substitution} {t : Term} {y : Variable}
    : y ∈ (s.apply t).freeVars ↔ ∃ x ∈ t.freeVars, y ∈ (s.apply (.var x)).freeVars := by
  induction t generalizing s with
  | var x => simp
  | app head args ih =>
      rw [apply, applyAll_eq_map]
      simp only [Term.mem_freeVars_app]
      constructor
      · intro inside
        obtain ⟨image, mapped, hy⟩ := inside
        obtain ⟨arg, member, rfl⟩ := List.mem_map.mp mapped
        obtain ⟨x, hx, put⟩ := (ih arg member).mp hy
        exact ⟨x, ⟨arg, member, hx⟩, put⟩
      · intro put
        obtain ⟨x, ⟨arg, member, hx⟩, hy⟩ := put
        exact ⟨s.apply arg, List.mem_map.mpr ⟨arg, member, rfl⟩,
          (ih arg member).mpr ⟨x, hx, hy⟩⟩
  | abs binder body ih =>
      obtain ⟨renamed, inner, enters⟩ := exists_enters s binder body
      rw [enters.applied, Term.mem_freeVars_abs, ih]
      constructor
      · intro inside
        obtain ⟨other, x, hx, hy⟩ := inside
        by_cases same : x = binder
        · rw [same, enters.bound, Term.mem_freeVars_var] at hy
          exact absurd hy other
        · rw [enters.others x hx same] at hy
          exact ⟨x, Term.mem_freeVars_abs.mpr ⟨same, hx⟩, hy⟩
      · intro put
        obtain ⟨x, free, hy⟩ := put
        obtain ⟨other, hx⟩ := Term.mem_freeVars_abs.mp free
        refine ⟨?_, x, hx, (enters.others x hx other).symm ▸ hy⟩
        intro captured
        exact enters.fresh x hx other (captured ▸ hy)

end Substitution

namespace Term

/-- A variable is free in a term exactly when putting something else in its place changes the
nameless form.
-/
theorem mem_freeVars_iff_subst_ne {t : Term} {x : Variable}
    : x ∈ t.freeVars
      ↔ t.nameless.subst (fun y => if y = x then .bound 0 else .free y)
        ≠ t.nameless.subst .free := by
  rw [nameless, ne_eq, subst_namelessIn_inj]
  simp

/-- Equal terms have the same free variables. -/
theorem mem_freeVars_of_alphaEq {t u : Term} (same : t.alphaEq u = true) {x : Variable}
    : x ∈ t.freeVars ↔ x ∈ u.freeVars := by
  rw [mem_freeVars_iff_subst_ne, mem_freeVars_iff_subst_ne, alphaEq_iff.mp same]

-----------------------------------------------------------------------------------------
-- Free variables in one pass
-----------------------------------------------------------------------------------------

mutual
/-- Adds the variables of a term that none of the binders entered so far binds. -/
def collectFree (scope : List Variable) : Term → VarSet → VarSet
  | .var x, found => if x ∈ scope then found else found.insert x
  | .app _ args, found => collectFreeAll scope args found
  | .abs binder body, found => body.collectFree (binder :: scope) found

/-- Adds those of the terms of a list, from left to right. -/
def collectFreeAll (scope : List Variable) : List Term → VarSet → VarSet
  | [], found => found
  | t :: rest, found => collectFreeAll scope rest (t.collectFree scope found)
end

theorem mem_collectFreeAll {scope : List Variable} {y : Variable} {ts : List Term}
    (each : ∀ t ∈ ts, ∀ found : VarSet,
      y ∈ t.collectFree scope found ↔ y ∈ found ∨ y ∈ t.freeVars ∧ y ∉ scope)
    (found : VarSet)
    : y ∈ collectFreeAll scope ts found ↔ y ∈ found ∨ (∃ t ∈ ts, y ∈ t.freeVars) ∧ y ∉ scope := by
  induction ts generalizing found with
  | nil => simp [collectFreeAll]
  | cons t rest ih =>
      have first := each t List.mem_cons_self found
      have others := ih (fun u member => each u (List.mem_cons_of_mem t member))
        (t.collectFree scope found)
      have either : (∃ u ∈ t :: rest, y ∈ u.freeVars)
          ↔ y ∈ t.freeVars ∨ ∃ u ∈ rest, y ∈ u.freeVars := by
        simp
      rw [collectFreeAll, others, first, either, or_and_right, or_assoc]

/-- What is collected below some binders are the free variables that they do not bind, by induction
on the term.
-/
theorem mem_collectFree {t : Term} {scope : List Variable} {found : VarSet} {y : Variable}
    : y ∈ t.collectFree scope found ↔ y ∈ found ∨ y ∈ t.freeVars ∧ y ∉ scope := by
  induction t generalizing scope found with
  | var x =>
      rw [collectFree, mem_freeVars_var]
      by_cases bound : x ∈ scope
      · rw [if_pos bound]
        have outside : ¬ (y = x ∧ y ∉ scope) := fun free => free.2 (free.1 ▸ bound)
        simp [outside]
      · rw [if_neg bound, VarSet.mem_insert, or_comm]
        have free : y = x ∧ y ∉ scope ↔ y = x := and_iff_left_of_imp fun same => same ▸ bound
        rw [free]
  | app head args ih =>
      rw [collectFree, mem_freeVars_app]
      exact mem_collectFreeAll (fun arg member _ => ih arg member) found
  | abs binder body ih =>
      rw [collectFree, ih, mem_freeVars_abs, List.mem_cons, not_or]
      rw [and_left_comm, and_assoc]

theorem collectFree_eq (t : Term) : t.collectFree [] VarSet.empty = t.freeVars := by
  refine VarSet.ext fun y => ?_
  rw [mem_collectFree]
  simp

end Term

/-- The free-variable law. An instance has exactly the free variables of the terms put in for the
variables free in the term, so no binder captures one and no new name of a binder gets out. The same
variables are found by collecting them under the binders entered and by looking for each one.
-/
theorem Substitution.freeVars_apply_exact (s : Substitution) (t : Term)
    : (s.apply t).freeVars = Term.freeVarsAll (t.freeVars.toList.map (fun x => s.apply (.var x)))
      ∧ ∀ u : Term,
          u.freeVars = u.collectFree [] VarSet.empty
          ∧ ∀ y, u.occursFree y = true ↔ y ∈ u.freeVars := by
  constructor
  · refine VarSet.ext fun y => ?_
    rw [mem_freeVars_apply, Term.mem_freeVarsAll]
    constructor
    · intro put
      obtain ⟨x, free, hy⟩ := put
      exact ⟨s.apply (.var x), List.mem_map.mpr ⟨x, VarSet.mem_toList.mpr free, rfl⟩, hy⟩
    · intro listed
      obtain ⟨image, mapped, hy⟩ := listed
      obtain ⟨x, free, rfl⟩ := List.mem_map.mp mapped
      exact ⟨x, VarSet.mem_toList.mp free, hy⟩
  · intro u
    exact ⟨u.collectFree_eq.symm, fun y => Term.occursFree_iff⟩

-- `x` is put in below a binder of `x`, and `y` where a binder of `y` hides the variable it is for
example
    : let x : Variable := ⟨"x", 0⟩
      let y : Variable := ⟨"y", 0⟩
      let z : Variable := ⟨"z", 0⟩
      let s := Substitution.ofList [(y, .var x), (z, .var y)]
      (s.apply (.abs x (.app "f" [.var x, .var y]))).freeVars.toList = [x]
        ∧ (s.apply (.abs z (.abs y (.var z)))).freeVars.toList = [] := by
  decide

end Backchain
