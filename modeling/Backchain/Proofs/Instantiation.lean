import Backchain.Proofs.AttemptBudget
import Backchain.Proofs.Composition

/-! Instances of a derivable judgment are derivable within as many levels. The free variables of a
goal are rigid in a search, so a proof found for it never depends on what they might stand for.
-/

namespace Backchain

theorem Judgment.Valid.instantiate {j : Judgment} (valid : j.Valid) (s : Substitution)
    : (j.instantiate s).Valid := by
  obtain ⟨named, counted⟩ := valid_iff.mp valid
  obtain ⟨term, family⟩ := j
  cases term with
  | var x => cases named
  | app head args =>
      rw [valid_iff]
      simp only [Judgment.instantiate, Substitution.apply, Term.head?, Term.args,
        Substitution.applyAll_eq_map, List.length_map]
      exact ⟨named, counted⟩
  | abs binder body => cases named

/-- A derivation is carried over to an instance of its judgment rule by rule: what the rule's
substitution has put in is instantiated after it, by induction on the levels.
-/
theorem Rulebook.Derives.instantiate {book : Rulebook} {levels : Nat} {goal : Judgment}
    (derived : book.Derives levels goal) (s : Substitution)
    : book.Derives levels (goal.instantiate s) := by
  induction levels generalizing goal with
  | zero => exact derived.elim
  | succ levels ih =>
      obtain ⟨rule, declared, grounded, family, r, same, premises⟩ := derived
      refine ⟨rule, declared, grounded, family, r.andThen s, ?_, ?_⟩
      · rw [Term.alphaEq_iff, Substitution.nameless_apply_andThen, Term.alphaEq_iff.mp same]
        exact (Substitution.nameless_apply s goal.term).symm
      · intro premise member
        have joined : ((premise.instantiate r).instantiate s).alphaEq
            (premise.instantiate (r.andThen s)) = true := by
          refine Judgment.alphaEq_iff.mpr ⟨Term.alphaEq_iff.mpr ?_, rfl⟩
          rw [Judgment.instantiate, Judgment.instantiate, Judgment.instantiate,
            Substitution.nameless_apply_andThen, Substitution.nameless_apply s]
        exact (ih (premises premise member)).congr joined

namespace Prover

end Prover

end Backchain
