import Backchain.Proofs.CanonicalSubstitutions
import Backchain.Proofs.FreeVariables
import Backchain.Proofs.KeptBinders

/-! Substitutions that change nothing when they are applied once more. What decides is whether a
variable of the domain is free in a term of the range. An occurrence below a binder of its own does
not count; a swap or a cycle does, although further passes bring every variable back.
-/

namespace Backchain

namespace Substitution

/-- No variable of the domain is free in a term of the range. -/
def Settled (s : Substitution) : Prop := ∀ x ∈ s.domain, ∀ u ∈ s.range, x ∉ u.freeVars

/-- A term is equal to its instance exactly when none of its free variables is in the domain. -/
theorem Proper.alphaEq_apply_iff {s : Substitution} (proper : s.Proper) {t : Term}
    : (s.apply t).alphaEq t = true ↔ ∀ x ∈ t.freeVars, x ∉ s.domain := by
  constructor
  · intro same x hx bound
    have untouched : identity.apply t = t := apply_of_isIdentity rfl t
    have forms : (s.apply t).nameless = (identity.apply t).nameless := by
      rw [untouched, Term.alphaEq_iff.mp same]
    have itself := nameless_apply_inj.mp forms x hx
    have lookup := proper.map_get?_eq_of_nameless proper_identity itself
    obtain ⟨u, found⟩ := mem_domain_iff.mp bound
    rw [found] at lookup
    cases lookup
  · intro unbound
    rw [apply_of_unbound unbound]
    exact t.alphaEq_refl

/-- A free variable of an instance comes from the range or was left alone, so it is not in the
domain of a settled substitution.
-/
theorem Settled.not_mem_domain {s : Substitution} (settled : s.Settled) {t : Term} {x : Variable}
    (hx : x ∈ (s.apply t).freeVars)
    : x ∉ s.domain := by
  obtain ⟨y, _, put⟩ := mem_freeVars_apply.mp hx
  rw [apply_var] at put
  intro bound
  cases found : s.get? y with
  | none =>
      rw [found, Option.getD_none, Term.mem_freeVars_var] at put
      obtain ⟨u, other⟩ := mem_domain_iff.mp bound
      rw [put, found] at other
      cases other
  | some u =>
      rw [found, Option.getD_some] at put
      exact settled x bound u (mem_range_iff.mpr ⟨y, found⟩) put

/-- One pass leaves nothing to do for a second exactly when the substitution is settled. To see this
of a term of the range, the passes are run on the variable that it is for.
-/
theorem Proper.forall_alphaEq_apply_apply_iff {s : Substitution} (proper : s.Proper)
    : (∀ t, (s.apply (s.apply t)).alphaEq (s.apply t) = true) ↔ s.Settled := by
  constructor
  · intro again x bound u member hx
    obtain ⟨y, found⟩ := mem_range_iff.mp member
    have image : s.apply (.var y) = u := by rw [apply_var, found, Option.getD_some]
    have unbound := proper.alphaEq_apply_iff.mp (again (.var y))
    rw [image] at unbound
    exact unbound x hx bound
  · intro settled t
    exact proper.alphaEq_apply_iff.mpr fun x hx => settled.not_mem_domain hx

/-- A substitution composed with itself has the effect of two passes. -/
theorem Proper.andThen_self_alphaEq_iff {s : Substitution} (proper : s.Proper)
    : (s.andThen s).alphaEq s = true
      ↔ ∀ t, (s.apply (s.apply t)).alphaEq (s.apply t) = true := by
  rw [alphaEq_iff_nameless (proper_andThen s s) proper, ← forall_alphaEq_apply_iff]
  refine forall_congr' fun t => ?_
  rw [Term.alphaEq_iff, Term.alphaEq_iff, nameless_apply_andThen, ← nameless_apply]

/-- Idempotence. However a substitution comes about, applying it a second time changes nothing, up
to bound names, exactly when no variable that it binds is free in a term that it binds, and this is
also when its composition with itself is the substitution itself.
-/
theorem idempotent_iff {s : Substitution} (built : s.Built)
    : ((∀ t, (s.apply (s.apply t)).alphaEq (s.apply t) = true)
        ↔ ∀ x ∈ s.domain, ∀ u ∈ s.range, x ∉ u.freeVars)
      ∧ ((s.andThen s).alphaEq s = true ↔ ∀ x ∈ s.domain, ∀ u ∈ s.range, x ∉ u.freeVars) := by
  have passes := built.proper.forall_alphaEq_apply_apply_iff
  exact ⟨passes, built.proper.andThen_self_alphaEq_iff.trans passes⟩

/-- The first substitution binds `x` to a term where `x` occurs below a binder of `x` only, and it
is idempotent. The second swaps two variables, so that two passes take back what one does.
-/
theorem idempotent_iff_of_bound_occurrence
    : let x : Variable := ⟨"x", 0⟩
      let y : Variable := ⟨"y", 0⟩
      let z : Variable := ⟨"z", 0⟩
      let s := ofList [(x, .abs x (.app "f" [.var x, .var z])), (y, .var z)]
      let swap := ofList [(x, .var y), (y, .var x)]
      s.Built
        ∧ (∀ t, (s.apply (s.apply t)).alphaEq (s.apply t) = true)
        ∧ (s.andThen s).alphaEq s = true
        ∧ swap.Built
        ∧ ¬ (∀ t, (swap.apply (swap.apply t)).alphaEq (swap.apply t) = true)
        ∧ (swap.andThen swap).isIdentity = true := by
  intro x y z s swap
  have built : s.Built := .ofList _
  have settled : ∀ v ∈ s.domain, ∀ u ∈ s.range, v ∉ u.freeVars := by decide
  have swapBuilt : swap.Built := .ofList _
  have unsettled : ¬ ∀ v ∈ swap.domain, ∀ u ∈ swap.range, v ∉ u.freeVars := by decide
  exact ⟨built, (idempotent_iff built).1.mpr settled, (idempotent_iff built).2.mpr settled,
    swapBuilt, fun again => unsettled ((idempotent_iff swapBuilt).1.mp again), by decide⟩

end Substitution

end Backchain
