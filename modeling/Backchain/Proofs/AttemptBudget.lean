import Backchain.Proofs.SearchCorrectness
import Backchain.Proofs.SearchSteps

/-! What an attempt budget does to a search. A search under a lower budget makes the same attempts
up to its own limit. It is the same search if it never gets there, and otherwise it ends with
exactly as many attempts as it was allowed, however deep in the premises that happens.
-/

namespace Backchain

namespace Search

/-- The end of an attempt under a budget, against its end `full` under a higher one: the same, if no
more attempts were made than the budget allows, or else an early stop with the budget used up.
-/
inductive Cut {α : Type} (budget : Nat) (full : Outcome α × Progress)
    : Outcome α × Progress → Prop
  | whole (within : full.2.stats.attempts ≤ budget) : Cut budget full full
  | stopped {progress : Progress} (spent : progress.stats.attempts = budget)
    (short : budget < full.2.stats.attempts) (below : progress.stats.AtMost full.2.stats)
    : Cut budget full (.budgetSpent, progress)

/-- An early stop is passed on by whatever follows, while the full search only goes on counting. -/
theorem Cut.proceed {α β : Type} {budget : Nat} {full cut : Outcome α × Progress}
    {closed closed' : α → Progress → Outcome β × Progress}
    {failed failed' : Progress → Outcome β × Progress} (first : Cut budget full cut)
    (closedGrows : ∀ value, Grows (closed value)) (failedGrows : Grows failed)
    (onClosed : ∀ value (next : Progress), next.stats.attempts ≤ budget
      → Cut budget (closed value next) (closed' value next))
    (onFailed : ∀ next : Progress, next.stats.attempts ≤ budget
      → Cut budget (failed next) (failed' next))
    : Cut budget (Search.proceed closed failed full) (Search.proceed closed' failed' cut) := by
  cases first with
  | whole within =>
      rcases full with ⟨value | _ | _, next⟩
      · exact onClosed value next within
      · exact onFailed next within
      · exact .whole within
  | stopped spent short below =>
      have grows := atMost_proceed closedGrows failedGrows full
      exact .stopped spent (Nat.lt_of_lt_of_le short grows.attempts) (below.trans grows)

/-- A budget that allows another attempt is not yet used up under a higher limit either. -/
theorem unspent_of_lower {budget : Nat} {limit : Option Nat}
    (lower : ∀ top ∈ limit, budget ≤ top) {progress : Progress}
    (room : progress.stats.attempts < budget)
    : isSpent limit progress = false := by
  cases limit with
  | none => rfl
  | some top =>
      have above := lower top rfl
      simp only [isSpent, Option.any_some, decide_eq_false_iff_not]
      omega

section

variable {full cut : Judgment → Progress → Outcome ProofTree × Progress} {budget : Nat}

/-- Goals are cut off with the goal at which the budget runs out, by induction on the goals. -/
theorem cut_closeAll (grows : ∀ goal, Grows (full goal))
    (each : ∀ goal (progress : Progress), progress.stats.attempts ≤ budget
      → Cut budget (full goal progress) (cut goal progress))
    (goals : List Judgment) (progress : Progress) (within : progress.stats.attempts ≤ budget)
    : Cut budget (closeAll full goals progress) (closeAll cut goals progress) := by
  induction goals generalizing progress with
  | nil => exact .whole within
  | cons goal rest ih =>
      rw [closeAll_cons, closeAll_cons]
      have later (tree : ProofTree) := grows_proceed (grows_closeAll grows rest)
        (fun trees => grows_pure (.closed (tree :: trees))) (grows_pure .failed)
      refine (each goal progress within).proceed later (grows_pure .failed) ?_ ?_
      · intro tree next inside
        exact (ih next inside).proceed (fun trees => grows_pure (.closed (tree :: trees)))
          (grows_pure .failed) (fun _ _ known => .whole known) fun _ known => .whole known
      · intro next inside
        exact .whole inside

/-- When the budget is used up, the next rule is one that only the full search may try. -/
theorem cut_of_spent {limit : Option Nat} (grows : ∀ goal, Grows (full goal)) {goal : Judgment}
    {rule : Rule} {rest : List Rule} {progress : Progress} (grounded : rule.grounded = true)
    (spent : progress.stats.attempts = budget)
    : Cut budget (tryRules full limit goal (rule :: rest) progress) (.budgetSpent, progress) := by
  cases above : isSpent limit progress with
  | true =>
      rw [tryRules_of_spent grounded above]
      exact .whole (Nat.le_of_eq spent)
  | false =>
      -- the full search tries this rule, which is one attempt more than the budget
      have counted := countAttempt_atMost_tryRules grows (grows_tryRules grows goal rest) grounded
        above
      have more : progress.stats.attempts + 1 ≤ _ := counted.attempts
      exact .stopped spent (by omega) (progress.atMost_countAttempt.trans counted)

/-- Rules are cut off at the first one that would be tried with the budget used up, or with the
premises of an earlier one, by induction on the rules.
-/
theorem cut_tryRules {limit : Option Nat} (lower : ∀ top ∈ limit, budget ≤ top)
    (grows : ∀ goal, Grows (full goal))
    (each : ∀ goal (progress : Progress), progress.stats.attempts ≤ budget
      → Cut budget (full goal progress) (cut goal progress))
    (goal : Judgment) (rules : List Rule) (progress : Progress)
    (within : progress.stats.attempts ≤ budget)
    : Cut budget (tryRules full limit goal rules progress)
        (tryRules cut (some budget) goal rules progress) := by
  induction rules generalizing progress with
  | nil => exact .whole within
  | cons rule rest ih =>
      cases grounded : rule.grounded with
      | false =>
          rw [tryRules_of_ungrounded grounded, tryRules_of_ungrounded grounded]
          exact ih (progress.note (.skipped rule.name goal)) within
      | true =>
          cases spent : isSpent (some budget) progress with
          | true =>
              have reached : budget ≤ progress.stats.attempts := by simpa [isSpent] using spent
              rw [tryRules_of_spent grounded spent]
              exact cut_of_spent grows grounded (Nat.le_antisymm within reached)
          | false =>
              have room : progress.stats.attempts < budget := by simpa [isSpent] using spent
              have unspent := unspent_of_lower lower room
              cases matched : rule.conclusion.term.match? goal.term with
              | none =>
                  rw [tryRules_of_mismatch grounded unspent matched,
                    tryRules_of_mismatch grounded spent matched]
                  exact ih progress.countAttempt room
              | some s =>
                  rw [tryRules_of_match grounded unspent matched,
                    tryRules_of_match grounded spent matched]
                  have premises := cut_closeAll grows each (RuleInstance.mk rule s).premises
                    (progress.countAttempt.countMatch.note (.trying rule.name goal s)) room
                  refine premises.proceed (fun children => grows_pure (.closed _)) ?_
                    (fun children next inside => .whole inside) ?_
                  · intro next
                    exact grows_tryRules grows goal rest (next.note (.backtracking rule.name goal))
                  · intro next inside
                    exact ih (next.note (.backtracking rule.name goal)) inside

end

/-- Closing a goal is cut off when the budget is used up, by induction on the levels left. -/
theorem cut_close (book : Rulebook) {budget : Nat} {limit : Option Nat}
    (lower : ∀ top ∈ limit, budget ≤ top) (remaining level : Nat) (goal : Judgment)
    (progress : Progress) (within : progress.stats.attempts ≤ budget)
    : Cut budget (close book limit remaining level goal progress)
        (close book (some budget) remaining level goal progress) := by
  induction remaining generalizing level goal progress with
  | zero => exact .whole within
  | succ remaining ih =>
      exact cut_tryRules lower (grows_close book limit remaining (level + 1)) (ih (level + 1)) goal
        (book.candidates goal.family) (progress.reachLevel level) within

-----------------------------------------------------------------------------------------
-- Whole runs
-----------------------------------------------------------------------------------------

theorem finish_stats (goal : Judgment) (depthBound : Nat) (ended : Outcome ProofTree × Progress)
    : (finish goal depthBound ended).stats = ended.2.stats := by
  rcases ended with ⟨_ | _ | _, progress⟩ <;> rfl

/-- A run under a budget is the run under a higher limit, or it stops early with the budget used up.
A malformed goal is refused without an attempt either way.
-/
theorem run_cut_cases (book : Rulebook) (goal : Judgment) (depthBound : Nat) {budget : Nat}
    {limit : Option Nat} (lower : ∀ top ∈ limit, budget ≤ top)
    : let full := run book limit (.unproved goal) depthBound
      let cut := run book (some budget) (.unproved goal) depthBound
      (full.stats.attempts ≤ budget ∧ cut = full)
      ∨ (budget < full.stats.attempts
        ∧ cut.result = .error (.exhausted goal depthBound budget .attemptBudget)
        ∧ cut.stats.attempts = budget
        ∧ cut.stats.AtMost full.stats) := by
  cases valid : goal.validate with
  | error cause =>
      refine Or.inl ⟨?_, ?_⟩
      · simp [run, runGoal, valid]
      · simp [run, runGoal, valid]
  | ok _ =>
      have ended : Cut budget (ending book limit goal depthBound)
          (ending book (some budget) goal depthBound) :=
        cut_close book lower depthBound 1 goal _ (Nat.zero_le budget)
      rw [run_of_valid valid, run_of_valid valid]
      dsimp only
      rw [finish_stats, finish_stats]
      generalize ending book limit goal depthBound = full at ended
      generalize ending book (some budget) goal depthBound = cut at ended
      cases ended with
      | whole within =>
          exact Or.inl ⟨within, rfl⟩
      | @stopped progress spent short below =>
          exact Or.inr ⟨short, by simp [finish, spent], spent, below⟩

theorem unbudgeted_not_stopped (book : Rulebook) (goal : Judgment) (depthBound : Nat)
    : ¬ (run book none (.unproved goal) depthBound).StoppedByBudget := by
  cases valid : goal.validate with
  | error cause =>
      intro stopped
      obtain ⟨_, _, _, reported⟩ := stopped
      simp [run, runGoal, valid] at reported
  | ok _ => exact not_stoppedByBudget book depthBound valid

/-- A budget stops a search exactly when the search without a limit makes more attempts. -/
theorem stoppedByBudget_iff (book : Rulebook) (goal : Judgment) (depthBound budget : Nat)
    : (run book (some budget) (.unproved goal) depthBound).StoppedByBudget
      ↔ budget < (run book none (.unproved goal) depthBound).stats.attempts := by
  rcases run_cut_cases book goal depthBound (fun top (limited : top ∈ none) => nomatch limited) with
    ⟨within, same⟩ | ⟨short, result, _⟩
  · rw [same]
    exact iff_of_false (unbudgeted_not_stopped book goal depthBound) (Nat.not_lt_of_le within)
  · exact iff_of_true ⟨goal, depthBound, budget, result⟩ short

/-- A search that its budget does not stop is the search without a limit. -/
theorem run_some_eq_run_none {book : Rulebook} {goal : Judgment} {depthBound budget : Nat}
    (within : ¬ (run book (some budget) (.unproved goal) depthBound).StoppedByBudget)
    : run book (some budget) (.unproved goal) depthBound
      = run book none (.unproved goal) depthBound := by
  rcases run_cut_cases book goal depthBound (fun top (limited : top ∈ none) => nomatch limited) with
    ⟨_, same⟩ | ⟨_, result, _⟩
  · exact same
  · exact absurd ⟨goal, depthBound, budget, result⟩ within

/-- The evenness of two, to be found behind a rule that leads from each goal to itself. -/
def twoIsEven : Judgment := Samples.isEven (Samples.numeral 2)

end Search

namespace Prover

end Prover

end Backchain
