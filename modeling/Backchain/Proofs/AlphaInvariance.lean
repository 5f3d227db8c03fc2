import Backchain.Proofs.Measurements
import Backchain.Proofs.SearchSimulation

/-! The search cannot tell equal rules and equal goals apart. Matching may be led through binders of
other names and rename them otherwise, but what it binds the variables of a rule to is equal each
time, and so are the premises that follow.
-/

namespace Backchain

namespace Rule

/-- Equal rules can stand in for one another: a substitution for one of them does for the other. -/
theorem interchangeable_of_alphaEq {rule other : Rule} (same : rule.alphaEq other = true)
    : rule.Interchangeable other := by
  obtain ⟨name, premises, conclusion, grounds⟩ := alphaEq_iff.mp same
  have instances (s : Substitution)
      : (s.apply rule.conclusion.term).alphaEq (s.apply other.conclusion.term) = true :=
    (Judgment.alphaEq_iff.mp (Substitution.alphaEq_instantiate (s := s) rfl conclusion)).1
  refine interchangeable_of_solutions name (Judgment.alphaEq_iff.mp conclusion).2 grounds ?_ ?_
  · intro s t taken
    exact Term.exists_match? (Term.alphaEq_trans (Term.alphaEq_symm (instances s)) taken)
  · intro o t taken
    refine ⟨o, Term.alphaEq_trans (instances o) taken, ?_⟩
    exact premises.imp fun _ _ equal => Substitution.alphaEq_instantiate rfl equal

end Rule

namespace Search

/-- The search cannot tell equal inputs apart: with equal rules in the same order and equal goals,
under one bound and one budget, the counters are the same and the results are equal, proofs or
errors, up to bound names.
-/
theorem run_alphaEq {book other : Rulebook}
    (rules : List.Forall₂ (fun rule rule' => rule.alphaEq rule' = true) book.toList other.toList)
    {goal target : Judgment} (goals : goal.alphaEq target = true) (budget : Option Nat)
    (depthBound : Nat)
    : let left := run book budget (.unproved goal) depthBound
      let right := run other budget (.unproved target) depthBound
      left.stats = right.stats ∧ left.sameResult right = true :=
  alike_run (rules.imp fun _ _ same => Rule.interchangeable_of_alphaEq same) goals budget depthBound

/-- The judgment that a function is total. -/
def isTotal (t : Term) : Judgment := ⟨.app "total" [t], ⟨"total", 1⟩⟩

/-- The identity, written with a given variable, is total, and so is a composition of total
functions.
-/
def totalDrafts (x : Variable) : List RuleDraft :=
  [
    { name := "identity", conclusion := isTotal (.abs x (.var x)) },
    {
      name := "compose",
      premises := [isTotal (Samples.v "f"), isTotal (Samples.v "g")],
      conclusion := isTotal (.app "compose" [Samples.v "f", Samples.v "g"])
    }
  ]

theorem run_alphaEq_of_totalDrafts
    : let x : Variable := ⟨"x", 0⟩
      let f : Variable := ⟨"f", 2⟩
      let book := Rulebook.empty.declare (totalDrafts x)
      let other := Rulebook.empty.declare (totalDrafts f)
      let goal := isTotal (.app "compose" [.abs x (.var x), .abs x (.var x)])
      let target := isTotal (.app "compose" [.abs f (.var f), .abs x (.var x)])
      List.Forall₂ (fun rule rule' => rule.alphaEq rule' = true) book.toList other.toList
      ∧ goal.alphaEq target = true
      ∧ (run book none (.unproved goal) 2).result.isOk = true
      ∧ (run book none (.unproved goal) 2).sameResult (run other none (.unproved target) 2) = true
      ∧ (run book (some 3) (.unproved goal) 2).result.isOk = false
      ∧ (run book (some 3) (.unproved goal) 2).sameResult
          (run other (some 3) (.unproved target) 2) = true := by
  intro x f book other goal target
  have rules : List.Forall₂ (fun rule rule' => rule.alphaEq rule' = true) book.toList
      other.toList := by decide
  have goals : goal.alphaEq target = true := by decide
  exact ⟨rules, goals, by decide, (run_alphaEq rules goals none 2).2, by decide,
    (run_alphaEq rules goals (some 3) 2).2⟩

end Search

end Backchain
