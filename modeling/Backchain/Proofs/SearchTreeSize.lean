import Mathlib.Algebra.Ring.GeomSum
import Mathlib.Tactic.Ring
import Backchain.Proofs.AttemptBudget

/-! The attempts of a search against the size of the tree that it searches. Below a goal there is a
branch for each grounded rule of its family, and on each branch a goal for each premise. A judgment
that comes up on several branches is searched again on each of them, and a premise that fails saves
the ones after it, so the tree is an upper bound.
-/

namespace Backchain

namespace Rulebook

/-- At most `choices` grounded rules conclude any one family, and each has at most `subgoals`
premises.
-/
structure Branching (book : Rulebook) (choices subgoals : Nat) : Prop where
  rules
    : ∀ family : Family,
        book.toList.countP (fun rule => rule.grounded && rule.family = family) ≤ choices
  premises : ∀ rule ∈ book.toList, rule.grounded = true → rule.premises.length ≤ subgoals

/-- It is enough to count the rules of the families that some rule concludes. -/
theorem branching_iff {book : Rulebook} {choices subgoals : Nat}
    : book.Branching choices subgoals
      ↔ ∀ rule ∈ book.toList, rule.grounded = true
          → book.toList.countP (fun other => other.grounded && other.family = rule.family)
              ≤ choices
            ∧ rule.premises.length ≤ subgoals := by
  constructor
  · intro branching rule declared grounded
    exact ⟨branching.rules rule.family, branching.premises rule declared grounded⟩
  · intro each
    refine ⟨fun family => ?_, fun rule declared grounded => (each rule declared grounded).2⟩
    rcases Nat.eq_zero_or_pos
      (book.toList.countP (fun rule => rule.grounded && rule.family = family)) with none | some
    · omega
    · obtain ⟨rule, declared, counted⟩ := List.countP_pos_iff.mp some
      obtain ⟨grounded, rfl⟩ : rule.grounded = true ∧ rule.family = family := by
        simpa using counted
      exact (each rule declared grounded).1

instance (book : Rulebook) (choices subgoals : Nat) : Decidable (book.Branching choices subgoals) :=
  decidable_of_iff' _ branching_iff

/-- The rules that a goal tries are the grounded rules of its family. -/
theorem Branching.countP_candidates {book : Rulebook} {choices subgoals : Nat}
    (branching : book.Branching choices subgoals) (family : Family)
    : (book.candidates family).countP Rule.grounded ≤ choices := by
  rw [candidates_eq, List.countP_filter]
  exact branching.rules family

end Rulebook

namespace Search

/-- Wherever an attempt starts, it tries at most so many rules. -/
def TriesAtMost {α : Type} (limit : Nat) (attempt : Progress → Outcome α × Progress) : Prop :=
  Reaches (fun earlier later => later.stats.attempts ≤ earlier.stats.attempts + limit) attempt

theorem triesAtMost_pure {α : Type} (limit : Nat) (outcome : Outcome α)
    : TriesAtMost limit (fun progress => (outcome, progress)) :=
  fun progress => Nat.le_add_right progress.stats.attempts limit

/-- What follows an attempt, whichever way it ended, adds its own attempts. -/
theorem triesAtMost_proceed {α β : Type} {attempt : Progress → Outcome α × Progress}
    {closed : α → Progress → Outcome β × Progress} {failed : Progress → Outcome β × Progress}
    {first rest : Nat} (start : TriesAtMost first attempt)
    (onClosed : ∀ value, TriesAtMost rest (closed value)) (onFailed : TriesAtMost rest failed)
    : TriesAtMost (first + rest) (fun progress => proceed closed failed (attempt progress)) := by
  have onward : ∀ ended : Outcome α × Progress,
      (proceed closed failed ended).2.stats.attempts ≤ ended.2.stats.attempts + rest := by
    intro ended
    rcases ended with ⟨value | _ | _, next⟩
    · exact onClosed value next
    · exact onFailed next
    · exact Nat.le_add_right _ _
  intro progress
  calc (proceed closed failed (attempt progress)).2.stats.attempts
      ≤ (attempt progress).2.stats.attempts + rest := onward (attempt progress)
    _ ≤ progress.stats.attempts + first + rest := Nat.add_le_add_right (start progress) rest
    _ = progress.stats.attempts + (first + rest) := Nat.add_assoc _ _ _

section

variable {close : Judgment → Progress → Outcome ProofTree × Progress} {limit : Nat}
  (each : ∀ goal, TriesAtMost limit (close goal))

include each

/-- Goals closed one after the other add up, by induction on the goals. -/
theorem triesAtMost_closeAll (goals : List Judgment)
    : TriesAtMost (goals.length * limit) (closeAll close goals) := by
  induction goals with
  | nil => exact triesAtMost_pure _ (.closed [])
  | cons goal rest ih =>
      rw [List.length_cons, Nat.succ_mul, Nat.add_comm]
      intro progress
      rw [closeAll_cons]
      have later (tree : ProofTree) := triesAtMost_proceed ih
        (fun trees => triesAtMost_pure 0 (.closed (tree :: trees))) (triesAtMost_pure 0 .failed)
      exact triesAtMost_proceed (each goal) later (triesAtMost_pure _ .failed) progress

/-- Each grounded rule is one attempt, and as many for each of its premises as one goal may take, by
induction on the rules.
-/
theorem triesAtMost_tryRules {budget : Option Nat} {goal : Judgment} {subgoals : Nat}
    {rules : List Rule}
    (short : ∀ rule ∈ rules, rule.grounded = true → rule.premises.length ≤ subgoals)
    : TriesAtMost (rules.countP Rule.grounded * (1 + subgoals * limit))
        (tryRules close budget goal rules) := by
  induction rules with
  | nil => exact triesAtMost_pure _ .failed
  | cons rule rest ih =>
      intro progress
      have others := ih fun other member => short other (List.mem_cons_of_mem rule member)
      cases grounded : rule.grounded with
      | false =>
          rw [tryRules_of_ungrounded grounded, List.countP_cons_of_neg (by simp [grounded])]
          exact others (progress.note (.skipped rule.name goal))
      | true =>
          rw [List.countP_cons_of_pos grounded, Nat.succ_mul]
          cases spent : isSpent budget progress with
          | true =>
              rw [tryRules_of_spent grounded spent]
              exact Nat.le_add_right _ _
          | false =>
              cases matched : rule.conclusion.term.match? goal.term with
              | none =>
                  have later := others progress.countAttempt
                  rw [tryRules_of_mismatch grounded spent matched]
                  simp only [Progress.stats_countAttempt] at later
                  omega
              | some s =>
                  -- this attempt, those for the premises, and those for the rules after this one
                  have premises : (RuleInstance.mk rule s).premises.length * limit
                      ≤ subgoals * limit := by
                    rw [RuleInstance.premises, List.length_map]
                    exact Nat.mul_le_mul_right limit (short rule List.mem_cons_self grounded)
                  have tried := triesAtMost_proceed
                    (triesAtMost_closeAll each (RuleInstance.mk rule s).premises)
                    (fun children =>
                      triesAtMost_pure _ (.closed (.derived goal ⟨rule, s⟩ children)))
                    (fun next => others (next.note (.backtracking rule.name goal)))
                    (progress.countAttempt.countMatch.note (.trying rule.name goal s))
                  rw [tryRules_of_match grounded spent matched]
                  simp only [Progress.stats_note, Progress.stats_countMatch,
                    Progress.stats_countAttempt] at tried
                  omega

end

/-- Closing a goal tries no more rules than the tree below it has branches, by induction on the
levels left.
-/
theorem triesAtMost_close {book : Rulebook} {choices subgoals : Nat}
    (branching : book.Branching choices subgoals) (budget : Option Nat) (remaining level : Nat)
    (goal : Judgment)
    : TriesAtMost (choices * ∑ k ∈ Finset.range remaining, (choices * subgoals) ^ k)
        (close book budget remaining level goal) := by
  induction remaining generalizing level goal with
  | zero =>
      intro progress
      exact Nat.le_add_right _ _
  | succ remaining ih =>
      have short : ∀ rule ∈ book.candidates goal.family, rule.grounded = true
          → rule.premises.length ≤ subgoals := by
        intro rule candidate
        exact branching.premises rule (Rulebook.mem_candidates.mp candidate).1
      intro progress
      let below := choices * ∑ k ∈ Finset.range remaining, (choices * subgoals) ^ k
      calc (close book budget (remaining + 1) level goal progress).2.stats.attempts
          ≤ progress.stats.attempts
              + (book.candidates goal.family).countP Rule.grounded * (1 + subgoals * below) :=
            triesAtMost_tryRules (ih (level + 1)) short (progress.reachLevel level)
        _ ≤ progress.stats.attempts + choices * (1 + subgoals * below) :=
            Nat.add_le_add_left
              (Nat.mul_le_mul_right _ (branching.countP_candidates goal.family)) _
        _ = progress.stats.attempts
              + choices * ∑ k ∈ Finset.range (remaining + 1), (choices * subgoals) ^ k := by
            rw [geom_sum_succ]
            ring

/-- The attempts of a search are at most the branches of its search tree. If no family has more than
`choices` grounded rules and no grounded rule more than `subgoals` premises, then `k` levels below
the root there are at most `(choices * subgoals) ^ k` goals, each of which tries at most `choices`
rules, whatever the budget.
-/
theorem run_attempts_le {book : Rulebook} {choices subgoals : Nat}
    (branching : book.Branching choices subgoals) (budget : Option Nat) (root : ProofTree)
    (depthBound : Nat)
    : (run book budget root depthBound).stats.attempts
      ≤ choices * ∑ k ∈ Finset.range depthBound, (choices * subgoals) ^ k := by
  cases root with
  | derived goal inst children => exact Nat.zero_le _
  | unproved goal =>
      cases valid : goal.validate with
      | error cause => simp [run, runGoal, valid]
      | ok _ =>
          rw [run_of_valid valid, finish_stats, ending]
          have tried := triesAtMost_close branching budget depthBound 1 goal
            { events := #[.started goal depthBound] }
          simpa using tried

/-- Two rules that both lead from a goal to itself. -/
def twoLoops : Rulebook :=
  Rulebook.empty.declare
    [
      {
        name := "left",
        premises := [Samples.isEven (Samples.v "n")],
        conclusion := Samples.isEven (Samples.v "n")
      },
      {
        name := "right",
        premises := [Samples.isEven (Samples.v "n")],
        conclusion := Samples.isEven (Samples.v "n")
      }
    ]

/-- Every branch of the tree is searched if nothing can be proved, so the bound is attained. -/
theorem run_attempts_le_of_twoLoops
    : let run budget := run twoLoops budget (.unproved twoIsEven) 3
      twoLoops.Branching 2 1
      ∧ (run none).stats.attempts = 14
      ∧ (run none).stats.attempts ≤ 2 * ∑ k ∈ Finset.range 3, (2 * 1) ^ k
      ∧ 2 * ∑ k ∈ Finset.range 3, (2 * 1) ^ k = 14
      ∧ (run (some 5)).stats.attempts ≤ 2 * ∑ k ∈ Finset.range 3, (2 * 1) ^ k := by
  intro run
  have branching : twoLoops.Branching 2 1 := by decide
  exact ⟨branching, by decide, run_attempts_le branching none (.unproved twoIsEven) 3, by decide,
    run_attempts_le branching (some 5) (.unproved twoIsEven) 3⟩

end Search

end Backchain
