import Backchain.Proofs.AttemptBudget

/-! The counters of a search against its result. They are kept over all branches, those that are
given up included, so a proof that is returned accounts for a part of them only: each of its rule
applications is one of the matches, and each of its levels is among those that were reached.
-/

namespace Backchain

-----------------------------------------------------------------------------------------
-- Bounds on the counters
-----------------------------------------------------------------------------------------

/-- No more matches than attempts have been counted, and no level beyond the depth bound. -/
structure SearchStats.Bounded (stats : SearchStats) (depthBound : Nat) : Prop where
  matched : stats.matched ≤ stats.attempts
  maxDepth : stats.maxDepth ≤ depthBound

namespace Search

/-- No single step on a goal leads out of the bounds: a match is counted with its attempt. -/
theorem onward_bounded (depthBound : Nat)
    : Onward
        (fun earlier later => earlier.stats.Bounded depthBound → later.stats.Bounded depthBound)
        (fun _ => True) where
  refl _ before := before
  trans inner outer before := outer (inner before)
  attempt _ before := ⟨Nat.le_succ_of_le before.matched, before.maxDepth⟩
  attemptMatched _ before := ⟨Nat.succ_le_succ before.matched, before.maxDepth⟩
  note _ _ _ before := before

/-- Closing a goal at a level keeps the counters within bounds that leave room for the levels below,
by induction on the levels left.
-/
theorem bounded_close (book : Rulebook) (budget : Option Nat) {depthBound remaining level : Nat}
    (room : remaining + level ≤ depthBound + 1) (goal : Judgment) (progress : Progress)
    (before : progress.stats.Bounded depthBound)
    : (close book budget remaining level goal progress).2.stats.Bounded depthBound := by
  induction remaining generalizing level goal progress with
  | zero => exact before
  | succ remaining ih =>
      have reached : (progress.reachLevel level).stats.Bounded depthBound := by
        refine ⟨before.matched, Nat.max_le.mpr ⟨before.maxDepth, ?_⟩⟩
        omega
      have each : ∀ inner : Judgment, True
          → Reaches
              (fun earlier later =>
                earlier.stats.Bounded depthBound → later.stats.Bounded depthBound)
              (close book budget remaining (level + 1) inner) := by
        intro inner _ progress before
        exact ih (by omega) inner progress before
      exact (onward_bounded depthBound).reaches_tryRules each trivial
        (fun _ _ _ _ _ _ _ => trivial) _ reached

-----------------------------------------------------------------------------------------
-- What a proof accounts for
-----------------------------------------------------------------------------------------

/-- What follows an attempt closes with a value that it got from the attempt's own value, or from
going on after the attempt failed.
-/
theorem proceed_eq_closed {α β : Type} {closed : α → Progress → Outcome β × Progress}
    {failed : Progress → Outcome β × Progress} {ended : Outcome α × Progress} {result : β}
    {last : Progress} (closes : proceed closed failed ended = (.closed result, last))
    : (∃ value next, ended = (.closed value, next) ∧ closed value next = (.closed result, last))
      ∨ ∃ next, ended = (.failed, next) ∧ failed next = (.closed result, last) := by
  rcases ended with ⟨value | _ | _, next⟩
  · exact Or.inl ⟨value, next, rfl, closes⟩
  · exact Or.inr ⟨next, rfl, closes⟩
  · cases closes

/-- Between two stages of a search a proof of some size and height, with its root at a level, has
been counted: each rule application as a match, and its lowest level as one that was reached.
-/
structure Accounts (level size height : Nat) (earlier later : SearchStats) : Prop where
  matched : earlier.matched + size ≤ later.matched
  maxDepth : level + height ≤ later.maxDepth + 1

theorem Accounts.from_earlier {level size height : Nat} {start earlier later : SearchStats}
    (accounts : Accounts level size height earlier later) (before : start.matched ≤ earlier.matched)
    : Accounts level size height start later :=
  ⟨Nat.le_trans (Nat.add_le_add_right before size) accounts.matched, accounts.maxDepth⟩

section

variable {close : Judgment → Progress → Outcome ProofTree × Progress} {level : Nat}
  (grows : ∀ goal, Grows (close goal))
  (each : ∀ goal progress tree last, close goal progress = (.closed tree, last)
    → Accounts (level + 1) tree.size tree.height progress.stats last.stats)

include grows each

/-- The proofs of several goals are counted one after the other, by induction on the goals. -/
theorem accounts_closeAll {goals : List Judgment} {progress last : Progress}
    {trees : List ProofTree} (reached : level ≤ progress.stats.maxDepth)
    (closes : closeAll close goals progress = (.closed trees, last))
    : Accounts (level + 1) (ProofTree.totalSize trees) (ProofTree.greatestHeight trees)
        progress.stats last.stats := by
  induction goals generalizing progress trees with
  | nil =>
      cases closes
      refine ⟨Nat.le_refl _, ?_⟩
      simp only [ProofTree.greatestHeight]
      omega
  | cons goal rest ih =>
      rw [closeAll_cons] at closes
      rcases proceed_eq_closed closes with ⟨tree, next, first, closes⟩ | ⟨_, _, closes⟩
      · rcases proceed_eq_closed closes with ⟨children, final, others, joined⟩ | ⟨_, _, closes⟩
        · cases joined
          have here := each goal progress tree next first
          have before : progress.stats.AtMost next.stats := by
            have grown := grows goal progress
            rwa [first] at grown
          have after : next.stats.AtMost last.stats := by
            have grown := grows_closeAll grows rest next
            rwa [others] at grown
          have below := ih (Nat.le_trans reached before.maxDepth) others
          have deeper := after.maxDepth
          have counted := here.matched
          have later := below.matched
          refine ⟨?_, ?_⟩
          · rw [ProofTree.totalSize]
            omega
          · have first := here.maxDepth
            have rest := below.maxDepth
            rw [ProofTree.greatestHeight]
            omega
        · cases closes
      · cases closes

/-- The proof that one of several rules gives is counted on top of what was counted for the rules
before it, by induction on the rules.
-/
theorem accounts_tryRules {budget : Option Nat} {goal : Judgment} {rules : List Rule}
    {progress last : Progress} {tree : ProofTree} (reached : level ≤ progress.stats.maxDepth)
    (closes : tryRules close budget goal rules progress = (.closed tree, last))
    : Accounts level tree.size tree.height progress.stats last.stats := by
  induction rules generalizing progress with
  | nil => cases closes
  | cons rule rest ih =>
      cases grounded : rule.grounded with
      | false =>
          let skipped := progress.note (.skipped rule.name goal)
          rw [tryRules_of_ungrounded grounded] at closes
          have start : level ≤ skipped.stats.maxDepth := reached
          exact (ih start closes).from_earlier (Nat.le_refl _)
      | true =>
          cases spent : isSpent budget progress with
          | true =>
              rw [tryRules_of_spent grounded spent] at closes
              cases closes
          | false =>
              cases matched : rule.conclusion.term.match? goal.term with
              | none =>
                  rw [tryRules_of_mismatch grounded spent matched] at closes
                  have start : level ≤ progress.countAttempt.stats.maxDepth := reached
                  exact (ih start closes).from_earlier (Nat.le_refl _)
              | some s =>
                  let started :=
                    progress.countAttempt.countMatch.note (.trying rule.name goal s)
                  have start : level ≤ started.stats.maxDepth := reached
                  rw [tryRules_of_match grounded spent matched] at closes
                  rcases proceed_eq_closed closes with
                    ⟨children, next, premises, derived⟩ | ⟨next, premises, closes⟩
                  · -- The match of this rule pays for the root of the proof.
                    cases derived
                    have below := accounts_closeAll grows each start premises
                    have counted : progress.stats.matched + 1 + _ ≤ _ := below.matched
                    have deepest := below.maxDepth
                    refine ⟨?_, ?_⟩
                    · rw [ProofTree.size]
                      omega
                    · rw [ProofTree.height]
                      omega
                  · -- What was counted for the premises stays counted, though they are given up.
                    have grown := grows_closeAll grows (RuleInstance.mk rule s).premises started
                    rw [premises] at grown
                    let resumed := next.note (.backtracking rule.name goal)
                    have again : level ≤ resumed.stats.maxDepth :=
                      Nat.le_trans start grown.maxDepth
                    have before : progress.stats.matched ≤ resumed.stats.matched :=
                      Nat.le_trans (Nat.le_succ _) grown.matched
                    exact (ih again closes).from_earlier before

end

/-- A proof that closes a goal at a level is accounted for, by induction on the levels left. -/
theorem accounts_close (book : Rulebook) (budget : Option Nat) (remaining level : Nat)
    (goal : Judgment) (progress : Progress) (tree : ProofTree) (last : Progress)
    (closes : close book budget remaining level goal progress = (.closed tree, last))
    : Accounts level tree.size tree.height progress.stats last.stats := by
  induction remaining generalizing level goal progress tree last with
  | zero => cases closes
  | succ remaining ih =>
      rw [close] at closes
      have reached : level ≤ (progress.reachLevel level).stats.maxDepth := Nat.le_max_right _ _
      have accounts := accounts_tryRules (grows_close book budget remaining (level + 1))
        (ih (level + 1)) reached closes
      exact accounts.from_earlier (Nat.le_refl _)

-----------------------------------------------------------------------------------------
-- Whole runs
-----------------------------------------------------------------------------------------

theorem attempts_le_budget (book : Rulebook) (goal : Judgment) (depthBound limit : Nat)
    : (run book (some limit) (.unproved goal) depthBound).stats.attempts ≤ limit := by
  have unlimited : ∀ top ∈ (none : Option Nat), limit ≤ top := by simp
  rcases run_cut_cases book goal depthBound unlimited with
    ⟨within, same⟩ | ⟨_, _, spent, _⟩
  · rw [same]
    exact within
  · exact Nat.le_of_eq spent

/-- With a level to spend the root's level is reached. -/
theorem one_le_maxDepth_ending (book : Rulebook) (budget : Option Nat) (goal : Judgment)
    {depthBound : Nat} (positive : 1 ≤ depthBound)
    : 1 ≤ (ending book budget goal depthBound).2.stats.maxDepth := by
  cases depthBound with
  | zero => cases positive
  | succ remaining =>
      let start : Progress := { events := #[.started goal (remaining + 1)] }
      have grown : (start.reachLevel 1).stats.AtMost
          (ending book budget goal (remaining + 1)).2.stats :=
        grows_tryRules (grows_close book budget remaining 2) goal _ _
      exact Nat.le_trans (Nat.le_max_right start.stats.maxDepth 1) grown.maxDepth

theorem of_finish_exhausted {goal searched : Judgment} {depthBound bound attempts : Nat}
    {reason : ExhaustionReason} {ended : Outcome ProofTree × Progress}
    (given : (finish goal depthBound ended).result
      = .error (.exhausted searched bound attempts reason))
    : searched = goal ∧ bound = depthBound ∧ attempts = ended.2.stats.attempts := by
  rcases ended with ⟨_ | _ | _, last⟩
  · cases given
  · cases given
    exact ⟨rfl, rfl, rfl⟩
  · cases given
    exact ⟨rfl, rfl, rfl⟩

/-- The counters of a search of a well-formed goal agree with how it went. There are no more matches
than attempts, no more attempts than a budget allows, and the deepest level is at most the depth
bound and at least one unless the bound is zero. A proof that is returned has no more rule
applications than there were matches and is no higher than the deepest level; and a search that was
given up reports its goal, its bound and the attempts that were counted.
-/
theorem run_stats_coherent (book : Rulebook) (budget : Option Nat) {goal : Judgment}
    (depthBound : Nat) (valid : goal.Valid)
    : let run := run book budget (.unproved goal) depthBound
      run.stats.matched ≤ run.stats.attempts
      ∧ (∀ limit ∈ budget, run.stats.attempts ≤ limit)
      ∧ run.stats.maxDepth ≤ depthBound
      ∧ (1 ≤ depthBound → 1 ≤ run.stats.maxDepth)
      ∧ (∀ tree, run.result = .ok tree
        → tree.size ≤ run.stats.matched ∧ tree.height ≤ run.stats.maxDepth)
      ∧ ∀ searched bound attempts reason,
          run.result = .error (.exhausted searched bound attempts reason)
          → searched = goal ∧ bound = depthBound ∧ attempts = run.stats.attempts := by
  have budgeted : ∀ limit ∈ budget,
      (run book budget (.unproved goal) depthBound).stats.attempts ≤ limit := by
    rintro limit rfl
    exact attempts_le_budget book goal depthBound limit
  have bounded : (ending book budget goal depthBound).2.stats.Bounded depthBound :=
    bounded_close book budget (Nat.le_refl _) goal _ ⟨Nat.le_refl _, Nat.zero_le _⟩
  rw [run_of_valid valid] at budgeted ⊢
  dsimp only
  rw [finish_stats] at budgeted ⊢
  refine ⟨bounded.matched, budgeted, bounded.maxDepth, one_le_maxDepth_ending book budget goal,
    ?_, ?_⟩
  · intro tree found
    have closes := finish_result_eq_ok_iff.mp found
    have accounts : Accounts 1 tree.size tree.height {}
        (ending book budget goal depthBound).2.stats :=
      accounts_close book budget depthBound 1 goal _ tree _ (Prod.ext closes rfl)
    have counted := accounts.matched
    have deepest := accounts.maxDepth
    exact ⟨by omega, by omega⟩
  · intro searched bound attempts reason given
    exact of_finish_exhausted given

/-- Six rules match on the way to a proof that two is even, which applies two of them. With one
attempt less than the search needs, it reports all the attempts that it was allowed.
-/
theorem run_stats_coherent_of_twoIsEven
    : let run budget := run Samples.even budget (.unproved twoIsEven) 2
      twoIsEven.Valid
      ∧ (run none).stats = { attempts := 8, matched := 6, maxDepth := 2 }
      ∧ (∃ tree,
          (run none).result = .ok tree
          ∧ tree.size ≤ (run none).stats.matched
          ∧ tree.height ≤ (run none).stats.maxDepth)
      ∧ (run (some 7)).result = .error (.exhausted twoIsEven 2 7 .attemptBudget)
      ∧ (run (some 7)).stats.attempts = 7 := by
  intro run
  have valid : twoIsEven.Valid := rfl
  have stats : (run none).stats = { attempts := 8, matched := 6, maxDepth := 2 } := by decide
  have succeeds : (run none).result.isOk = true := by decide
  have stopped : (run (some 7)).result = .error (.exhausted twoIsEven 2 7 .attemptBudget) := rfl
  obtain ⟨tree, found⟩ := exists_of_isOk succeeds
  obtain ⟨_, _, _, _, proof, _⟩ := run_stats_coherent Samples.even none 2 valid
  obtain ⟨_, _, _, _, _, reported⟩ := run_stats_coherent Samples.even (some 7) 2 valid
  exact ⟨valid, stats, ⟨tree, found, proof tree found⟩, stopped,
    (reported _ _ _ _ stopped).2.2.symm⟩

end Search

end Backchain
