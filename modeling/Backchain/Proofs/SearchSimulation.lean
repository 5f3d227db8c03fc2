import Mathlib.Data.List.Forall2
import Backchain.Proofs.SearchCorrectness
import Backchain.Proofs.SearchSteps

/-! Two searches in step with each other. Rules that do alike with corresponding goals and lead to
corresponding premises can stand in for one another: the searches try them in the same order, count
the same, and end with corresponding results. Rules that are passed over may stand on one side only.
-/

namespace Backchain

namespace Rule

/-- Two rules do alike with corresponding goals: both match or neither does, their premises
correspond, and equal proofs of these make equal proofs of the goals. This is asked of grounded
rules only, since the others are passed over.
-/
structure Corresponds (same : Judgment → Judgment → Prop) (equal : ProofTree → ProofTree → Prop)
    (rule other : Rule)
    : Prop where
  grounded : rule.grounded = other.grounded
  applies
    : ∀ goal target : Judgment, rule.grounded = true → same goal target
      → (rule.conclusion.term.match? goal.term = none
          ∧ other.conclusion.term.match? target.term = none)
        ∨ ∃ s o,
            rule.conclusion.term.match? goal.term = some s
            ∧ other.conclusion.term.match? target.term = some o
            ∧ List.Forall₂ same (RuleInstance.mk rule s).premises (RuleInstance.mk other o).premises
            ∧ ∀ children others, List.Forall₂ equal children others
              → equal (.derived goal ⟨rule, s⟩ children) (.derived target ⟨other, o⟩ others)

/-- A rule does alike with goals that are the same if its premises are again goals to be considered.
-/
theorem corresponds_self {same : Judgment → Judgment → Prop} (rule : Rule)
    (equal : ∀ goal target, same goal target → goal = target)
    (premises : ∀ goal s, rule.grounded = true → same goal goal
      → rule.conclusion.term.match? goal.term = some s
      → ∀ premise ∈ (RuleInstance.mk rule s).premises, same premise premise)
    : rule.Corresponds same Eq rule := by
  refine ⟨rfl, fun goal target grounded goals => ?_⟩
  obtain rfl := equal goal target goals
  cases matched : rule.conclusion.term.match? goal.term with
  | none => exact Or.inl ⟨rfl, rfl⟩
  | some s =>
      have considered := List.forall₂_same.mpr (premises goal s grounded goals matched)
      refine Or.inr ⟨s, s, rfl, rfl, considered, fun children others trees => ?_⟩
      rw [List.forall₂_eq_eq_eq] at trees
      rw [trees]

/-- Two lists of rules are in step: their rules are alike one by one, but for rules of the left list
that are not grounded and stand alone.
-/
inductive InStep (alike : Rule → Rule → Prop) : List Rule → List Rule → Prop
  | nil : InStep alike [] []
  | both {rule other : Rule} {rules others : List Rule} (first : alike rule other)
    (rest : InStep alike rules others)
    : InStep alike (rule :: rules) (other :: others)
  | skipped {rule : Rule} {rules others : List Rule} (ungrounded : rule.grounded = false)
    (rest : InStep alike rules others)
    : InStep alike (rule :: rules) others

theorem inStep_of_forall₂ {alike : Rule → Rule → Prop} {rules others : List Rule}
    (each : List.Forall₂ alike rules others)
    : InStep alike rules others := by
  induction each with
  | nil => exact .nil
  | cons first _ ih => exact .both first ih

/-- Two rules can stand in for one another in a search. What they do with a goal is asked of
grounded rules only, since the others are passed over.
-/
structure Interchangeable (rule other : Rule) : Prop where
  name : rule.name = other.name
  family : rule.family = other.family
  grounded : rule.grounded = other.grounded
  applies
    : ∀ t u : Term, rule.grounded = true → t.alphaEq u = true
      → (rule.conclusion.term.match? t = none ∧ other.conclusion.term.match? u = none)
        ∨ ∃ s o,
            rule.conclusion.term.match? t = some s
            ∧ other.conclusion.term.match? u = some o
            ∧ List.Forall₂ (Judgment.alphaEq · · = true) (RuleInstance.mk rule s).premises
                (RuleInstance.mk other o).premises

end Rule

theorem ProofTree.areAlphaEq_iff {trees others : List ProofTree}
    : areAlphaEq trees others = true
      ↔ List.Forall₂ (ProofTree.alphaEq · · = true) trees others := by
  induction trees generalizing others with
  | nil => cases others <;> simp [areAlphaEq]
  | cons tree rest ih => cases others <;> simp [areAlphaEq, ih]

namespace Search

-----------------------------------------------------------------------------------------
-- Attempts that end alike
-----------------------------------------------------------------------------------------

/-- Two attempts end alike: both closed with equal values, both failed or both abandoned, with the
same counters. What they note differs where bound names do.
-/
inductive Alike {α : Type} (equal : α → α → Prop)
    : Outcome α × Progress → Outcome α × Progress → Prop
  | closed {value other : α} {left right : Progress} (values : equal value other)
    (stats : left.stats = right.stats)
    : Alike equal (.closed value, left) (.closed other, right)
  | failed {left right : Progress} (stats : left.stats = right.stats)
    : Alike equal (.failed, left) (.failed, right)
  | budgetSpent {left right : Progress} (stats : left.stats = right.stats)
    : Alike equal (.budgetSpent, left) (.budgetSpent, right)

/-- Attempts that end alike go on alike if what follows does. -/
theorem Alike.proceed {α β : Type} {equal : α → α → Prop} {equal' : β → β → Prop}
    {left right : Outcome α × Progress} {closed closed' : α → Progress → Outcome β × Progress}
    {failed failed' : Progress → Outcome β × Progress} (first : Alike equal left right)
    (onClosed : ∀ value other (next next' : Progress), equal value other
      → next.stats = next'.stats → Alike equal' (closed value next) (closed' other next'))
    (onFailed : ∀ next next' : Progress, next.stats = next'.stats
      → Alike equal' (failed next) (failed' next'))
    : Alike equal' (Search.proceed closed failed left)
        (Search.proceed closed' failed' right) := by
  cases first with
  | closed values stats => exact onClosed _ _ _ _ values stats
  | failed stats => exact onFailed _ _ stats
  | budgetSpent stats => exact .budgetSpent stats

theorem isSpent_congr {budget : Option Nat} {left right : Progress}
    (stats : left.stats = right.stats)
    : isSpent budget left = isSpent budget right := by
  rw [isSpent, isSpent, stats]

section

variable {close close' : Judgment → Progress → Outcome ProofTree × Progress}
  {same : Judgment → Judgment → Prop} {equal : ProofTree → ProofTree → Prop}
  (each : ∀ (goal target : Judgment) (left right : Progress), same goal target
    → left.stats = right.stats → Alike equal (close goal left) (close' target right))

include each

/-- Corresponding goals are closed alike, by induction on the goals. -/
theorem alike_closeAll {goals targets : List Judgment} (goalwise : List.Forall₂ same goals targets)
    (left right : Progress) (stats : left.stats = right.stats)
    : Alike (List.Forall₂ equal) (closeAll close goals left) (closeAll close' targets right) := by
  induction goalwise generalizing left right with
  | nil => exact .closed .nil stats
  | @cons goal target goals targets first rest ih =>
      rw [closeAll_cons, closeAll_cons]
      refine (each goal target left right first stats).proceed ?_ ?_
      · intro tree other next next' trees stats
        refine (ih next next' stats).proceed ?_ ?_
        · intro children others last last' below stats
          exact .closed (.cons trees below) stats
        · intro last last' stats
          exact .failed stats
      · intro next next' stats
        exact .failed stats

/-- Rules in step are tried alike on corresponding goals, by induction on the rules. -/
theorem alike_tryRules (budget : Option Nat) {goal target : Judgment} (goals : same goal target)
    {rules others : List Rule} (inStep : Rule.InStep (Rule.Corresponds same equal) rules others)
    (left right : Progress) (stats : left.stats = right.stats)
    : Alike equal (tryRules close budget goal rules left)
        (tryRules close' budget target others right) := by
  induction inStep generalizing left right with
  | nil => exact .failed stats
  | skipped ungrounded _ ih =>
      rw [tryRules_of_ungrounded ungrounded]
      exact ih _ _ stats
  | @both rule other rest remaining first _ ih =>
      cases grounded : rule.grounded with
      | false =>
          have otherwise : other.grounded = false := first.grounded ▸ grounded
          rw [tryRules_of_ungrounded grounded, tryRules_of_ungrounded otherwise]
          exact ih _ _ stats
      | true =>
          have likewise : other.grounded = true := first.grounded ▸ grounded
          have spending : isSpent budget left = isSpent budget right := isSpent_congr stats
          cases spent : isSpent budget left with
          | true =>
              rw [tryRules_of_spent grounded spent,
                tryRules_of_spent likewise (spending ▸ spent)]
              exact .budgetSpent stats
          | false =>
              have unspent : isSpent budget right = false := spending ▸ spent
              rcases first.applies goal target grounded goals with
                ⟨mismatch, mismatch'⟩ | ⟨s, o, matched, matched', premises, proofs⟩
              · rw [tryRules_of_mismatch grounded spent mismatch,
                  tryRules_of_mismatch likewise unspent mismatch']
                exact ih _ _ (by simp [stats])
              · rw [tryRules_of_match grounded spent matched,
                  tryRules_of_match likewise unspent matched']
                refine (alike_closeAll each premises _ _ (by simp [stats])).proceed ?_ ?_
                · intro children others next next' below stats
                  exact .closed (proofs children others below) stats
                · intro next next' stats
                  exact ih _ _ stats

end

/-- Corresponding goals are closed alike within the same levels if the rules for them are in step,
by induction on the levels.
-/
theorem alike_close {book other : Rulebook} {same : Judgment → Judgment → Prop}
    {equal : ProofTree → ProofTree → Prop}
    (inStep : ∀ goal target, same goal target
      → Rule.InStep (Rule.Corresponds same equal) (book.candidates goal.family)
          (other.candidates target.family))
    (budget : Option Nat) (remaining level : Nat) {goal target : Judgment}
    (goals : same goal target) (left right : Progress) (stats : left.stats = right.stats)
    : Alike equal (close book budget remaining level goal left)
        (close other budget remaining level target right) := by
  induction remaining generalizing level goal target left right with
  | zero => exact .failed stats
  | succ remaining ih =>
      have each : ∀ (goal target : Judgment) (left right : Progress), same goal target
          → left.stats = right.stats
          → Alike equal (close book budget remaining (level + 1) goal left)
              (close other budget remaining (level + 1) target right) :=
        fun _ _ left right goals stats => ih (level + 1) goals left right stats
      exact alike_tryRules each budget goals (inStep goal target goals) _ _ (by simp [stats])

end Search

-----------------------------------------------------------------------------------------
-- Interchangeable rules
-----------------------------------------------------------------------------------------

namespace Rule

/-- Rules are interchangeable if a substitution for one of them gives one for the other and leads to
equal premises. On a grounded rule these are the premises under the match.
-/
theorem interchangeable_of_solutions {rule other : Rule} (name : rule.name = other.name)
    (family : rule.family = other.family) (grounds : rule.grounded = other.grounded)
    (forth : ∀ (s : Substitution) (t : Term), (s.apply rule.conclusion.term).alphaEq t = true
      → ∃ o, other.conclusion.term.match? t = some o)
    (back : ∀ (o : Substitution) (t : Term), (o.apply other.conclusion.term).alphaEq t = true
      → ∃ s : Substitution,
          (s.apply rule.conclusion.term).alphaEq t = true
          ∧ List.Forall₂ (fun premise premise' =>
              (premise.instantiate s).alphaEq (premise'.instantiate o) = true)
            rule.premises other.premises)
    : rule.Interchangeable other := by
  refine ⟨name, family, grounds, fun t u grounded equal => ?_⟩
  have flipped : u.alphaEq t = true := Term.alphaEq_symm equal
  cases matched : rule.conclusion.term.match? t with
  | none =>
      cases matched' : other.conclusion.term.match? u with
      | none => exact Or.inl ⟨rfl, rfl⟩
      | some o =>
          obtain ⟨s, taken, _⟩ :=
            back o t (Term.alphaEq_trans (Term.alphaEq_of_match? matched') flipped)
          obtain ⟨found, known⟩ := Term.exists_match? taken
          rw [matched] at known
          cases known
  | some s =>
      obtain ⟨o, matched'⟩ :=
        forth s u (Term.alphaEq_trans (Term.alphaEq_of_match? matched) equal)
      obtain ⟨r, taken, premises⟩ :=
        back o t (Term.alphaEq_trans (Term.alphaEq_of_match? matched') flipped)
      refine Or.inr ⟨s, o, rfl, matched', ?_⟩
      rw [RuleInstance.premises, RuleInstance.premises, List.forall₂_map_left_iff,
        List.forall₂_map_right_iff]
      refine List.forall₂_iff_zip.mpr ⟨premises.length_eq, fun {premise premise'} pair => ?_⟩
      have fixed := alphaEq_instantiate_of_match? grounded matched taken (List.of_mem_zip pair).1
      exact Judgment.alphaEq_trans fixed (List.forall₂_zip premises pair)

theorem Interchangeable.corresponds {rule other : Rule} (alike : rule.Interchangeable other)
    : rule.Corresponds (Judgment.alphaEq · · = true) (ProofTree.alphaEq · · = true) other := by
  refine ⟨alike.grounded, fun goal target grounded goals => ?_⟩
  have terms := (Judgment.alphaEq_iff.mp goals).1
  refine (alike.applies goal.term target.term grounded terms).imp_right ?_
  intro found
  obtain ⟨s, o, matched, matched', premises⟩ := found
  refine ⟨s, o, matched, matched', premises, fun children others trees => ?_⟩
  simp [ProofTree.alphaEq, goals, alike.name, ProofTree.areAlphaEq_iff.mpr trees]

end Rule

theorem Rulebook.candidates_interchangeable {book other : Rulebook}
    (rules : List.Forall₂ Rule.Interchangeable book.toList other.toList) (family : Family)
    : List.Forall₂ Rule.Interchangeable (book.candidates family) (other.candidates family) := by
  rw [candidates_eq, candidates_eq]
  refine List.rel_filter ?_ rules
  intro rule rule' same
  simp [same.family]

namespace Search

/-- Equal goals are closed alike with interchangeable rules. -/
theorem alike_close_of_interchangeable {book other : Rulebook}
    (rules : List.Forall₂ Rule.Interchangeable book.toList other.toList) (budget : Option Nat)
    (remaining level : Nat) {goal target : Judgment} (goals : goal.alphaEq target = true)
    (left right : Progress) (stats : left.stats = right.stats)
    : Alike (ProofTree.alphaEq · · = true) (close book budget remaining level goal left)
        (close other budget remaining level target right) := by
  have inStep : ∀ goal target : Judgment, goal.alphaEq target = true
      → Rule.InStep
          (Rule.Corresponds (Judgment.alphaEq · · = true) (ProofTree.alphaEq · · = true))
          (book.candidates goal.family) (other.candidates target.family) := by
    intro goal target goals
    have candidates := Rulebook.candidates_interchangeable rules goal.family
    rw [(Judgment.alphaEq_iff.mp goals).2] at candidates ⊢
    exact Rule.inStep_of_forall₂ (candidates.imp fun _ _ alike => alike.corresponds)
  exact alike_close inStep budget remaining level goals left right stats

-----------------------------------------------------------------------------------------
-- Whole runs
-----------------------------------------------------------------------------------------

theorem finish_of_alike (goal : Judgment) (depthBound : Nat)
    {left right : Outcome ProofTree × Progress} (ended : Alike Eq left right)
    : (finish goal depthBound left).result = (finish goal depthBound right).result
      ∧ (finish goal depthBound left).stats = (finish goal depthBound right).stats := by
  cases ended with
  | closed trees stats => exact ⟨congrArg Except.ok trees, stats⟩
  | failed stats => simp [finish, stats]
  | budgetSpent stats => simp [finish, stats]

theorem alike_finish {goal target : Judgment} (same : goal.alphaEq target = true)
    (depthBound : Nat) {left right : Outcome ProofTree × Progress}
    (ended : Alike (ProofTree.alphaEq · · = true) left right)
    : (finish goal depthBound left).stats = (finish target depthBound right).stats
      ∧ (finish goal depthBound left).sameResult (finish target depthBound right) = true := by
  cases ended with
  | closed trees stats => exact ⟨stats, trees⟩
  | failed stats => simp [finish, SearchRun.sameResult, SearchError.alphaEq, same, stats]
  | budgetSpent stats => simp [finish, SearchRun.sameResult, SearchError.alphaEq, same, stats]

/-- Searches of equal goals with interchangeable rules have equal counters and equal results. -/
theorem alike_run {book other : Rulebook}
    (rules : List.Forall₂ Rule.Interchangeable book.toList other.toList) {goal target : Judgment}
    (same : goal.alphaEq target = true) (budget : Option Nat) (depthBound : Nat)
    : let left := run book budget (.unproved goal) depthBound
      let right := run other budget (.unproved target) depthBound
      left.stats = right.stats ∧ left.sameResult right = true := by
  rcases Judgment.validate_of_alphaEq same with
    ⟨valid, valid'⟩ | ⟨cause, cause', refused, refused', causes⟩
  · rw [run_of_valid valid, run_of_valid valid']
    exact alike_finish same depthBound
      (alike_close_of_interchangeable rules budget depthBound 1 same _ _ rfl)
  · simp [run, runGoal, refused, refused', SearchRun.sameResult, SearchError.alphaEq, causes]

end Search

end Backchain
