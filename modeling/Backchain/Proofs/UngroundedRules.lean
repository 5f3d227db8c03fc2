import Backchain.Proofs.Declarations
import Backchain.Proofs.SearchSimulation

/-! Rules that are not grounded are invisible to the search. They are passed over before the budget
is asked and before anything is counted, so a rulebook without them leads to the same proofs, the
same errors and the same counters.
-/

namespace Backchain

/-- The rules of a list are in step with the grounded ones among them, by list induction. -/
theorem Rule.inStep_grounded (rules : List Rule)
    : InStep (Corresponds Eq Eq) rules (rules.filter (fun rule => rule.grounded)) := by
  induction rules with
  | nil => exact .nil
  | cons rule rest ih =>
      cases grounded : rule.grounded with
      | false =>
          rw [List.filter_cons_of_neg (by simp [grounded])]
          exact .skipped grounded ih
      | true =>
          rw [List.filter_cons_of_pos grounded]
          exact .both (rule.corresponds_self (fun _ _ goals => goals) fun _ _ _ _ _ _ _ => rfl) ih

theorem Rulebook.candidates_of_grounded {book part : Rulebook}
    (listed : part.toList = book.toList.filter (fun rule => rule.grounded)) (family : Family)
    : part.candidates family = (book.candidates family).filter (fun rule => rule.grounded) := by
  rw [candidates_eq, candidates_eq, listed, List.filter_filter, List.filter_filter]
  exact List.filter_congr fun rule _ => Bool.and_comm _ _

namespace Search

/-- The grounded rules of a rulebook make up a rulebook of their own, and every search in it has the
same result, with the same proof at every node or the same error, and the same counters.
-/
theorem run_grounded_rules (book : Rulebook)
    : ∃ part,
        Rulebook.ofRules (book.toList.filter (fun rule => rule.grounded)) = .ok part
        ∧ ∀ (budget : Option Nat) (root : ProofTree) (depthBound : Nat),
            let full := run book budget root depthBound
            let reduced := run part budget root depthBound
            full.result = reduced.result ∧ full.stats = reduced.stats := by
  have names : ((book.toList.filter (fun rule => rule.grounded)).map
      (fun rule => rule.name)).Nodup :=
    book.names_nodup.sublist (List.filter_sublist.map _)
  obtain ⟨part, declared, listed⟩ := Rulebook.exists_ofRules names
  refine ⟨part, declared, fun budget root depthBound => ?_⟩
  have inStep : ∀ goal target : Judgment, goal = target
      → Rule.InStep (Rule.Corresponds Eq Eq) (book.candidates goal.family)
          (part.candidates target.family) := by
    intro goal target goals
    rw [goals, Rulebook.candidates_of_grounded listed]
    exact Rule.inStep_grounded _
  cases root with
  | derived goal inst children => exact ⟨rfl, rfl⟩
  | unproved goal =>
      cases valid : goal.validate with
      | error cause => simp [run, runGoal, valid]
      | ok _ =>
          rw [run_of_valid valid, run_of_valid valid]
          exact finish_of_alike goal depthBound
            (alike_close inStep budget depthBound 1 rfl _ _ rfl)

-- with no attempt left, a family whose rules are all passed over still counts as searched through
example
    : let book := Rulebook.empty.declare (Samples.orderDrafts.take 1)
      let goal := Samples.le Samples.zero Samples.zero
      (run book (some 0) (.unproved goal) 1).result
      = .error (.exhausted goal 1 0 .searchSpace) := by
  rfl

end Search

end Backchain
