import Backchain.Proofs.CheckedDerivations
import Backchain.Proofs.SearchOutcome
import Backchain.Samples

/-! The search is sound. A proof that it returns is a derivation of the goal that fits within the
depth bound and passes the checker. It finds one whenever there is one, unless its attempt budget
runs out first.
-/

namespace Backchain

/-- The search was given up because its attempt budget was spent. -/
def SearchRun.StoppedByBudget (run : SearchRun) : Prop :=
  ∃ goal depthBound attempts,
    run.result = .error (.exhausted goal depthBound attempts .attemptBudget)

namespace Search

/-- How the search of a goal ends, before it is reported. -/
def ending (book : Rulebook) (budget : Option Nat) (goal : Judgment) (depthBound : Nat)
    : Outcome ProofTree × Progress :=
  close book budget depthBound 1 goal { events := #[.started goal depthBound] }

/-- A search of a well-formed goal reports how it ended. -/
theorem run_of_valid {book : Rulebook} {budget : Option Nat} {goal : Judgment} {depthBound : Nat}
    (valid : goal.Valid)
    : run book budget (.unproved goal) depthBound
      = finish goal depthBound (ending book budget goal depthBound) := by
  rw [run, runGoal, valid, ending]

theorem finish_result_eq_ok_iff {goal : Judgment} {depthBound : Nat}
    {ended : Outcome ProofTree × Progress} {tree : ProofTree}
    : (finish goal depthBound ended).result = .ok tree ↔ ended.1 = .closed tree := by
  rcases ended with ⟨_ | _ | _, progress⟩ <;> simp [finish]

/-- How a search of a well-formed goal ends: with a derivation within the bound, with the search
space exhausted where there is none, or stopped by the budget it was given.
-/
theorem run_cases (book : Rulebook) (budget : Option Nat) {goal : Judgment} (depthBound : Nat)
    (valid : goal.Valid)
    : let run := run book budget (.unproved goal) depthBound
      (∃ tree,
        run.result = .ok tree
        ∧ tree.judgment = goal
        ∧ tree.Throughout book.Justifies
        ∧ tree.height ≤ depthBound)
      ∨ (run.result = .error (.exhausted goal depthBound run.stats.attempts .searchSpace)
        ∧ ¬ book.Derives depthBound goal)
      ∨ (run.StoppedByBudget ∧ budget ≠ none) := by
  rw [run_of_valid valid]
  have meets : (ending book budget goal depthBound).1.Meets _ _ _ :=
    close_meets book budget depthBound 1 goal _
  cases ended : (ending book budget goal depthBound).1 with
  | closed tree =>
      rw [ended] at meets
      exact .inl ⟨tree, by simp [finish, ended], meets⟩
  | failed =>
      rw [ended] at meets
      exact .inr (.inl ⟨by simp [finish, ended], meets⟩)
  | budgetSpent =>
      rw [ended] at meets
      let attempts := (ending book budget goal depthBound).2.stats.attempts
      exact .inr (.inr ⟨⟨goal, depthBound, attempts, by simp [finish, ended, attempts]⟩, meets⟩)

theorem valid_of_run {book : Rulebook} {budget : Option Nat} {goal : Judgment} {depthBound : Nat}
    {tree : ProofTree} (found : (run book budget (.unproved goal) depthBound).result = .ok tree)
    : goal.Valid := by
  cases valid : goal.validate with
  | error cause => simp [run, runGoal, valid] at found
  | ok _ => exact valid

/-- What a search returns is a derivation of its goal within the bound. -/
theorem throughout_of_run {book : Rulebook} {budget : Option Nat} {goal : Judgment}
    {depthBound : Nat} {tree : ProofTree}
    (found : (run book budget (.unproved goal) depthBound).result = .ok tree)
    : tree.judgment = goal ∧ tree.Throughout book.Justifies ∧ tree.height ≤ depthBound := by
  rcases run_cases book budget depthBound (valid_of_run found) with
    ⟨other, returned, derivation⟩ | ⟨exhausted, _⟩ | ⟨⟨_, _, _, stopped⟩, _⟩
  · cases found.symm.trans returned
    exact derivation
  · cases found.symm.trans exhausted
  · cases found.symm.trans stopped

/-- The search is sound: a proof that it returns is a complete proof of the goal within the depth
bound, passes the checker, and applies at each node a grounded rule of the rulebook whose instance
concludes the node from the judgments of its subtrees.
-/
theorem run_sound {book : Rulebook} {budget : Option Nat} {goal : Judgment} {depthBound : Nat}
    {tree : ProofTree} (found : (run book budget (.unproved goal) depthBound).result = .ok tree)
    : tree.judgment = goal
      ∧ tree.isComplete = true
      ∧ tree.height ≤ depthBound
      ∧ tree.check book = .ok ()
      ∧ tree.Throughout book.Justifies := by
  obtain ⟨judgment, each, height⟩ := throughout_of_run found
  exact ⟨judgment, each.isComplete, height, each.check_eq_ok, each⟩

theorem exists_of_isOk {ε α : Type} {result : Except ε α} (succeeds : result.isOk = true)
    : ∃ value, result = .ok value := by
  cases result with
  | ok value => exact ⟨value, rfl⟩
  | error _ => cases succeeds

theorem exists_of_any {ε α : Type} {result : Except ε α} {holds : α → Bool}
    (any : result.toOption.any holds = true)
    : ∃ value, result = .ok value ∧ holds value = true := by
  cases result with
  | ok value => exact ⟨value, rfl, any⟩
  | error _ => cases any

/-- One added to the identity function, whose variable has another name in the sum. -/
def identitySum : Judgment :=
  Samples.plus (Samples.numeral 1) (.abs ⟨"x", 0⟩ (.var ⟨"x", 0⟩))
    (Samples.succ (.abs ⟨"y", 0⟩ (.var ⟨"y", 0⟩)))

theorem run_sound_of_identitySum
    : ∃ tree,
        (run Samples.addition none (.unproved identitySum) 2).result = .ok tree
        ∧ tree.judgment = identitySum
        ∧ tree.isComplete = true
        ∧ tree.height ≤ 2
        ∧ tree.check Samples.addition = .ok ()
        ∧ tree.Throughout Samples.addition.Justifies := by
  have succeeds : (run Samples.addition none (.unproved identitySum) 2).result.isOk = true := by
    decide
  obtain ⟨tree, found⟩ := exists_of_isOk succeeds
  exact ⟨tree, found, run_sound found⟩

theorem not_stoppedByBudget (book : Rulebook) {goal : Judgment} (depthBound : Nat)
    (valid : goal.Valid)
    : ¬ (run book none (.unproved goal) depthBound).StoppedByBudget := by
  rintro ⟨_, _, _, stopped⟩
  rcases run_cases book none depthBound valid with
    ⟨_, found, _⟩ | ⟨exhausted, _⟩ | ⟨_, budgeted⟩
  · rw [found] at stopped
    cases stopped
  · rw [exhausted] at stopped
    cases stopped
  · exact budgeted rfl

end Search

end Backchain
