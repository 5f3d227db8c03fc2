import Backchain.Proofs.Bindings
import Backchain.Proofs.FreeVariables

/-! Equality of binders as renaming. The comparison of two terms pairs their binders and never
renames, while a substitution renames and never compares. Yet two binders are equal exactly when
substituting the one variable for the other takes the one body to the other.
-/

namespace Backchain

namespace Substitution

/-- Renaming a variable to one that is not free in a term takes the term from below a binder of the
old variable to below a binder of the new one. Binders of the new variable inside the term are
renamed out of the way.
-/
theorem namelessIn_rename {x y : Variable} {body : Term} (apart : y = x ∨ y ∉ body.freeVars)
    : ((singleton x (.var y)).apply body).namelessIn [y] = body.namelessIn [x] := by
  have each : ∀ z ∈ body.freeVars, (singleton x (.var y)).Follows .free [x] [y] z := by
    intro z hz
    have image := apply_singleton_var x (.var y) z
    by_cases same : z = x
    · rw [if_pos same] at image
      have place : [x].idxOf? z = some 0 := by simp [same]
      have renamed : [y].idxOf? y = some 0 := by simp
      exact .bound place image renamed
    · rw [if_neg same] at image
      have other : z ≠ y := by
        rintro rfl
        rcases apart with renamed | absent
        · exact same renamed
        · exact absent hz
      refine .free (by simp [same]) ?_ ?_
      · simp [image, other]
      · rw [image]
        rfl
  rw [namelessIn_apply each, Nameless.subst_free]

end Substitution

namespace Term

/-- Equal binders are renamings of each other: the second variable is the first or not free in the
first body, and substituting it for the first takes the first body to the second, up to bound names.
-/
theorem abs_alphaEq_abs_iff (x y : Variable) (body other : Term)
    : (Term.abs x body).alphaEq (.abs y other) = true
      ↔ (y = x ∨ body.occursFree y = false)
        ∧ ((Substitution.singleton x (.var y)).apply body).alphaEq other = true := by
  have absent : body.occursFree y = false ↔ y ∉ body.freeVars := by
    rw [← occursFree_iff, Bool.not_eq_true]
  have bodies : (Term.abs x body).alphaEq (.abs y other) = true
      ↔ body.namelessIn [x] = other.namelessIn [y] := by
    rw [alphaEq_iff, nameless, nameless, namelessIn, namelessIn, Nameless.abs.injEq]
  rw [absent]
  constructor
  · intro same
    -- `y` is bound on the right, so it is not free on the left
    have outside : y ∉ (Term.abs x body).freeVars := by
      rw [mem_freeVars_of_alphaEq same, mem_freeVars_abs]
      simp
    have apart : y = x ∨ y ∉ body.freeVars := by
      rw [mem_freeVars_abs] at outside
      by_cases renamed : y = x
      · exact Or.inl renamed
      · exact Or.inr fun free => outside ⟨renamed, free⟩
    have renamed := (Substitution.namelessIn_rename apart).trans (bodies.mp same)
    exact ⟨apart, alphaEq_iff.mpr (namelessIn_inj.mp renamed)⟩
  · rintro ⟨apart, same⟩
    rw [bodies, ← Substitution.namelessIn_rename apart]
    exact namelessIn_inj.mpr (alphaEq_iff.mp same)

-- the inner binder of `y` gives way to the outer one
example
    : let x : Variable := ⟨"x", 0⟩
      let y : Variable := ⟨"y", 0⟩
      let z : Variable := ⟨"z", 0⟩
      let fresh : Variable := ⟨"y", 1⟩
      let body : Term := .abs y (.app "f" [.var x, .var y])
      (Substitution.singleton x (.var y)).apply body = .abs fresh (.app "f" [.var y, .var fresh])
        ∧ (Term.abs x body).alphaEq (.abs y (.abs z (.app "f" [.var y, .var z]))) = true
        ∧ (Term.abs x body).alphaEq (.abs y (.abs y (.app "f" [.var y, .var y]))) = false := by
  exact ⟨rfl, rfl, rfl⟩

end Term

end Backchain
