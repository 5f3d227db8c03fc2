import Backchain.Proofs.AttemptBudget

/-! The search without a limit, as a function of the goal and of the levels left. Whatever has been
counted before and at whatever level, a goal is closed by the first rule in declaration order whose
premises can all be closed, and takes the same number of attempts. A search under a limit is this
one, as long as the limit allows for that number.
-/

namespace Backchain

/-- The end of an attempt that no budget can stop. -/
def Outcome.ofOption {α : Type} : Option α → Outcome α
  | some value => .closed value
  | none => .failed

/-- The attempts that a list of goals takes: those of each goal, up to the first without a proof. -/
def Judgment.costs (prove : Judgment → Option ProofTree) (cost : Judgment → Nat)
    : List Judgment → Nat
  | [] => 0
  | goal :: rest => cost goal + if (prove goal).isSome then costs prove cost rest else 0

namespace Rule

/-- The proof that a rule gives of a goal: the rule is grounded and matches the goal, and each of
its premises is proved in a given way.
-/
def proof? (prove : Judgment → Option ProofTree) (goal : Judgment) (rule : Rule)
    : Option ProofTree :=
  if rule.grounded then
    (rule.conclusion.term.match? goal.term).bind (fun s =>
      ((RuleInstance.mk rule s).premises.mapM prove).map (.derived goal ⟨rule, s⟩))
  else none

/-- The attempts that a rule takes on a goal: one of its own if it is grounded, and those of its
premises if it matches.
-/
def cost (prove : Judgment → Option ProofTree) (cost : Judgment → Nat) (goal : Judgment)
    (rule : Rule)
    : Nat :=
  if rule.grounded then
    1 + (rule.conclusion.term.match? goal.term).elim 0 (fun s =>
      Judgment.costs prove cost (RuleInstance.mk rule s).premises)
  else 0

/-- The attempts that a list of rules takes on a goal: those of each rule, up to the first that
gives a proof.
-/
def costs (prove : Judgment → Option ProofTree) (cost : Judgment → Nat) (goal : Judgment)
    : List Rule → Nat
  | [] => 0
  | rule :: rest =>
      rule.cost prove cost goal
        + if (rule.proof? prove goal).isSome then 0 else costs prove cost goal rest

theorem proof?_eq_some {prove : Judgment → Option ProofTree} {goal : Judgment} {rule : Rule}
    {tree : ProofTree} (given : rule.proof? prove goal = some tree)
    : rule.grounded = true
      ∧ ∃ s children,
          rule.conclusion.term.match? goal.term = some s
          ∧ (RuleInstance.mk rule s).premises.mapM prove = some children
          ∧ tree = .derived goal ⟨rule, s⟩ children := by
  rw [proof?] at given
  split at given
  · rename_i grounded
    obtain ⟨s, matched, mapped⟩ := Option.bind_eq_some_iff.mp given
    obtain ⟨children, proved, rfl⟩ := Option.map_eq_some_iff.mp mapped
    exact ⟨grounded, s, children, matched, proved, rfl⟩
  · cases given

end Rule

namespace Rulebook

/-- The proof of a goal within a number of levels by the first rule that gives one. -/
def firstProof? (book : Rulebook) : Nat → Judgment → Option ProofTree
  | 0, _ => none
  | levels + 1, goal =>
      (book.candidates goal.family).findSome? (Rule.proof? (book.firstProof? levels) goal)

/-- The attempts that it takes to find that proof or that there is none. -/
def cost (book : Rulebook) : Nat → Judgment → Nat
  | 0, _ => 0
  | levels + 1, goal =>
      Rule.costs (book.firstProof? levels) (book.cost levels) goal (book.candidates goal.family)

end Rulebook

namespace Search

-----------------------------------------------------------------------------------------
-- The search without its counters
-----------------------------------------------------------------------------------------

/-- Wherever an attempt starts, it ends with the same value or without one, and adds the same number
to the count.
-/
structure Settles {α : Type} (attempt : Progress → Outcome α × Progress) (value? : Option α)
    (cost : Nat)
    : Prop where
  outcome : ∀ progress, (attempt progress).1 = .ofOption value?
  attempts
    : ∀ progress : Progress,
        (attempt progress).2.stats.attempts = progress.stats.attempts + cost

theorem settles_pure {α : Type} (value? : Option α)
    : Settles (fun progress => (.ofOption value?, progress)) value? 0 :=
  ⟨fun _ => rfl, fun _ => rfl⟩

/-- What is done before an attempt may add to the count. -/
theorem Settles.after {α : Type} {attempt : Progress → Outcome α × Progress} {value? : Option α}
    {cost added : Nat} (settles : Settles attempt value? cost) {prepare : Progress → Progress}
    (adds : ∀ progress, (prepare progress).stats.attempts = progress.stats.attempts + added)
    : Settles (fun progress => attempt (prepare progress)) value? (added + cost) := by
  refine ⟨fun progress => settles.outcome (prepare progress), fun progress => ?_⟩
  rw [settles.attempts, adds, Nat.add_assoc]

theorem settles_proceed {α β : Type} {attempt : Progress → Outcome α × Progress}
    {closed : α → Progress → Outcome β × Progress} {failed : Progress → Outcome β × Progress}
    {value? : Option α} {result : Option β} {first rest : Nat}
    (start : Settles attempt value? first)
    (onClosed : ∀ value, value? = some value → Settles (closed value) result rest)
    (onFailed : value? = none → Settles failed result rest)
    : Settles (fun progress => proceed closed failed (attempt progress)) result
        (first + rest) := by
  have step (progress : Progress)
      : (proceed closed failed (attempt progress)).1 = .ofOption result
        ∧ (proceed closed failed (attempt progress)).2.stats.attempts
          = progress.stats.attempts + (first + rest) := by
    have outcome := start.outcome progress
    rw [← Nat.add_assoc, ← start.attempts progress]
    generalize attempt progress = reached at outcome ⊢
    obtain ⟨ended, next⟩ := reached
    cases value? with
    | none =>
        obtain rfl : ended = .failed := outcome
        exact ⟨(onFailed rfl).outcome next, (onFailed rfl).attempts next⟩
    | some value =>
        obtain rfl : ended = .closed value := outcome
        exact ⟨(onClosed value rfl).outcome next, (onClosed value rfl).attempts next⟩
  exact ⟨fun progress => (step progress).1, fun progress => (step progress).2⟩

section

variable {close : Judgment → Progress → Outcome ProofTree × Progress}
  {prove : Judgment → Option ProofTree} {cost : Judgment → Nat}
  (each : ∀ goal, Settles (close goal) (prove goal) (cost goal))

include each

/-- Goals are closed with one proof each or not at all, by induction on the goals. -/
theorem settles_closeAll (goals : List Judgment)
    : Settles (closeAll close goals) (goals.mapM prove) (Judgment.costs prove cost goals) := by
  induction goals with
  | nil => exact settles_pure (some [])
  | cons goal rest ih =>
      have step : closeAll close (goal :: rest) = _ := funext fun _ => closeAll_cons
      rw [step, List.mapM_cons, Judgment.costs]
      refine settles_proceed (each goal) ?_ ?_
      · intro tree proved
        rw [proved, if_pos Option.isSome_some, ← Nat.add_zero (Judgment.costs prove cost rest)]
        refine settles_proceed ih ?_ ?_
        · intro trees others
          rw [others]
          exact settles_pure (some (tree :: trees))
        · intro others
          rw [others]
          exact settles_pure none
      · intro unproved
        rw [unproved]
        exact settles_pure none

/-- Without a limit a goal is closed by the first rule that gives a proof, by induction on the
rules.
-/
theorem settles_tryRules (goal : Judgment) (rules : List Rule)
    : Settles (tryRules close none goal rules) (rules.findSome? (Rule.proof? prove goal))
        (Rule.costs prove cost goal rules) := by
  induction rules with
  | nil => exact settles_pure none
  | cons rule rest ih =>
      rw [List.findSome?_cons, Rule.costs, Rule.cost, Rule.proof?]
      cases grounded : rule.grounded with
      | false =>
          have step : tryRules close none goal (rule :: rest) = _ :=
            funext fun _ => tryRules_of_ungrounded grounded
          rw [step]
          exact ih.after fun _ => rfl
      | true =>
          rw [if_pos rfl, if_pos rfl]
          cases matched : rule.conclusion.term.match? goal.term with
          | none =>
              have step : tryRules close none goal (rule :: rest) = _ :=
                funext fun _ => tryRules_of_mismatch grounded rfl matched
              rw [step]
              exact ih.after fun _ => rfl
          | some s =>
              have step : tryRules close none goal (rule :: rest) = _ :=
                funext fun _ => tryRules_of_match grounded rfl matched
              rw [step, Option.bind_some, Option.elim_some]
              have premises := settles_closeAll each (RuleInstance.mk rule s).premises
              refine settles_proceed (premises.after fun _ => rfl) ?_ ?_
              · intro children proved
                rw [proved]
                exact settles_pure (some (ProofTree.derived goal ⟨rule, s⟩ children))
              · intro unproved
                rw [unproved, ← Nat.zero_add (Rule.costs prove cost goal rest)]
                exact ih.after fun _ => rfl

end

/-- Without a limit the outcome of closing a goal and the attempts that it takes depend on the goal
and the levels left alone, by induction on the levels.
-/
theorem settles_close (book : Rulebook) (remaining level : Nat) (goal : Judgment)
    : Settles (close book none remaining level goal) (book.firstProof? remaining goal)
        (book.cost remaining goal) := by
  induction remaining generalizing level goal with
  | zero => exact ⟨fun _ => rfl, fun _ => rfl⟩
  | succ remaining ih =>
      have rules := settles_tryRules (ih (level + 1)) goal (book.candidates goal.family)
      exact ⟨fun progress => rules.outcome (progress.reachLevel level),
        fun progress => rules.attempts (progress.reachLevel level)⟩

/-- Without a limit the search of a well-formed goal returns the first proof. -/
theorem run_none_eq_ok_iff {book : Rulebook} {goal : Judgment} {depthBound : Nat}
    {tree : ProofTree}
    : (run book none (.unproved goal) depthBound).result = .ok tree
      ↔ goal.Valid ∧ book.firstProof? depthBound goal = some tree := by
  have ended : (ending book none goal depthBound).1
      = .ofOption (book.firstProof? depthBound goal) :=
    (settles_close book depthBound 1 goal).outcome _
  have closed : (ending book none goal depthBound).1 = .closed tree
      ↔ book.firstProof? depthBound goal = some tree := by
    rw [ended]
    cases book.firstProof? depthBound goal <;> simp [Outcome.ofOption]
  constructor
  · intro found
    have valid := valid_of_run found
    rw [run_of_valid valid, finish_result_eq_ok_iff] at found
    exact ⟨valid, closed.mp found⟩
  · intro first
    rw [run_of_valid first.1, finish_result_eq_ok_iff]
    exact closed.mpr first.2

/-- Without a limit the search of a well-formed goal makes as many attempts as the goal takes. -/
theorem attempts_run_none {book : Rulebook} {goal : Judgment} (valid : goal.Valid)
    (depthBound : Nat)
    : (run book none (.unproved goal) depthBound).stats.attempts = book.cost depthBound goal := by
  rw [run_of_valid valid, finish_stats]
  exact ((settles_close book depthBound 1 goal).attempts _).trans (Nat.zero_add _)

/-- Under a limit that allows for the attempts that a goal takes, the search is the same. -/
theorem run_eq_run_none {book : Rulebook} {goal : Judgment} {depthBound : Nat} (valid : goal.Valid)
    {limit : Option Nat} (enough : ∀ top ∈ limit, book.cost depthBound goal ≤ top)
    : run book limit (.unproved goal) depthBound = run book none (.unproved goal) depthBound := by
  cases limit with
  | none => rfl
  | some top =>
      refine run_some_eq_run_none fun stopped => ?_
      rw [stoppedByBudget_iff, attempts_run_none valid] at stopped
      exact Nat.not_lt_of_le (enough top rfl) stopped

/-- A search under a limit returns a proof exactly when it is the first one and the limit allows for
the attempts that finding it takes.
-/
theorem run_eq_ok_iff {book : Rulebook} {limit : Option Nat} {goal : Judgment} {depthBound : Nat}
    {tree : ProofTree}
    : (run book limit (.unproved goal) depthBound).result = .ok tree
      ↔ goal.Valid
        ∧ book.firstProof? depthBound goal = some tree
        ∧ ∀ top ∈ limit, book.cost depthBound goal ≤ top := by
  constructor
  · intro found
    have valid := valid_of_run found
    have enough : ∀ top ∈ limit, book.cost depthBound goal ≤ top := by
      rintro top rfl
      rw [← attempts_run_none valid]
      by_contra short
      obtain ⟨_, _, _, stopped⟩ :=
        (stoppedByBudget_iff book goal depthBound top).mpr (Nat.lt_of_not_le short)
      cases found.symm.trans stopped
    rw [run_eq_run_none valid enough] at found
    exact ⟨valid, (run_none_eq_ok_iff.mp found).2, enough⟩
  · rintro ⟨valid, first, enough⟩
    rw [run_eq_run_none valid enough]
    exact run_none_eq_ok_iff.mpr ⟨valid, first⟩

end Search

end Backchain
