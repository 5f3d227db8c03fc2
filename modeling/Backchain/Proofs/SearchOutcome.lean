import Mathlib.Data.List.Forall2
import Backchain.Proofs.Derivations
import Backchain.Proofs.SearchSteps

/-! What the outcome of an attempt says about its goal. A goal is closed only by a derivation within
the levels left, it fails only if there is none, and it is abandoned only if there is a budget. The
search commits to the substitution found by matching and to the first proof of each premise, which
loses nothing on grounded rules.
-/

namespace Backchain

/-- What is to hold at each end of an attempt. -/
def Outcome.Meets {α : Type} (proved : α → Prop) (refuted abandoned : Prop) : Outcome α → Prop
  | .closed value => proved value
  | .failed => refuted
  | .budgetSpent => abandoned

theorem Outcome.Meets.imp {α : Type} {proved proved' : α → Prop}
    {refuted refuted' abandoned : Prop} {outcome : Outcome α}
    (meets : outcome.Meets proved refuted abandoned)
    (closed : ∀ value, proved value → proved' value) (failed : refuted → refuted')
    : outcome.Meets proved' refuted' abandoned := by
  cases outcome with
  | closed value => exact closed value meets
  | failed => exact failed meets
  | budgetSpent => exact meets

namespace Rule

/-- The rule is grounded and matches the goal, and a tree applies it to proofs of its premises. -/
def Closes (rule : Rule) (proves : Judgment → ProofTree → Prop) (goal : Judgment)
    (tree : ProofTree)
    : Prop :=
  rule.grounded = true
  ∧ ∃ s children,
      rule.conclusion.term.match? goal.term = some s
      ∧ tree = .derived goal ⟨rule, s⟩ children
      ∧ List.Forall₂ proves (RuleInstance.mk rule s).premises children

/-- The rule is not grounded, does not match the goal or has a premise that is refuted. -/
def Useless (rule : Rule) (refuted : Judgment → Prop) (goal : Judgment) : Prop :=
  rule.grounded = true
  → ∀ s, rule.conclusion.term.match? goal.term = some s
  → ∃ premise ∈ (RuleInstance.mk rule s).premises, refuted premise

end Rule

namespace Search

theorem meets_proceed {α β : Type} {ended : Outcome α × Progress}
    {closed : α → Progress → Outcome β × Progress} {failed : Progress → Outcome β × Progress}
    {proved : α → Prop} {proved' : β → Prop} {refuted refuted' abandoned : Prop}
    (meets : ended.1.Meets proved refuted abandoned)
    (onClosed : ∀ value next, proved value
      → (closed value next).1.Meets proved' refuted' abandoned)
    (onFailed : ∀ next, refuted → (failed next).1.Meets proved' refuted' abandoned)
    : (proceed closed failed ended).1.Meets proved' refuted' abandoned := by
  rcases ended with ⟨value | _ | _, next⟩
  · exact onClosed value next meets
  · exact onFailed next meets
  · exact meets

section

variable {close : Judgment → Progress → Outcome ProofTree × Progress}
  {proves : Judgment → ProofTree → Prop} {refuted : Judgment → Prop} {abandoned : Prop}

/-- Goals that are all closed have one proof each, and of goals that fail one is refuted, by
induction on the goals.
-/
theorem closeAll_meets
    (each : ∀ goal progress,
      (close goal progress).1.Meets (proves goal) (refuted goal) abandoned)
    (goals : List Judgment) (progress : Progress)
    : (closeAll close goals progress).1.Meets (List.Forall₂ proves goals)
        (∃ goal ∈ goals, refuted goal) abandoned := by
  induction goals generalizing progress with
  | nil => exact .nil
  | cons goal rest ih =>
      rw [closeAll_cons]
      refine meets_proceed (each goal progress) ?_ ?_
      · intro tree next first
        refine meets_proceed (ih next) ?_ ?_
        · intro trees last others
          exact .cons first others
        · intro last others
          obtain ⟨other, member, refutes⟩ := others
          exact ⟨other, List.mem_cons_of_mem _ member, refutes⟩
      · intro next refutes
        exact ⟨goal, List.mem_cons_self, refutes⟩

/-- A goal is closed only by one of the rules, and fails only if all of them are useless, by
induction on the rules.
-/
theorem tryRules_meets
    (each : ∀ goal progress,
      (close goal progress).1.Meets (proves goal) (refuted goal) abandoned)
    {budget : Option Nat} (limit : ∀ progress, isSpent budget progress = true → abandoned)
    (goal : Judgment) (rules : List Rule) (progress : Progress)
    : (tryRules close budget goal rules progress).1.Meets
        (fun tree => ∃ rule ∈ rules, rule.Closes proves goal tree)
        (∀ rule ∈ rules, rule.Useless refuted goal)
        abandoned := by
  induction rules generalizing progress with
  | nil => exact fun _ member => nomatch member
  | cons rule rest ih =>
      have pass (useless : rule.Useless refuted goal) (progress : Progress)
          : (tryRules close budget goal rest progress).1.Meets
              (fun tree => ∃ other ∈ rule :: rest, other.Closes proves goal tree)
              (∀ other ∈ rule :: rest, other.Useless refuted goal)
              abandoned := by
        refine (ih progress).imp ?_ fun others => List.forall_mem_cons.mpr ⟨useless, others⟩
        intro tree closed
        obtain ⟨other, member, closes⟩ := closed
        exact ⟨other, List.mem_cons_of_mem _ member, closes⟩
      cases grounded : rule.grounded with
      | false =>
          rw [tryRules_of_ungrounded grounded]
          refine pass (fun known => ?_) _
          rw [grounded] at known
          cases known
      | true =>
          cases spent : isSpent budget progress with
          | true =>
              rw [tryRules_of_spent grounded spent]
              exact limit progress spent
          | false =>
              cases matched : rule.conclusion.term.match? goal.term with
              | none =>
                  rw [tryRules_of_mismatch grounded spent matched]
                  refine pass (fun _ s found => ?_) _
                  rw [matched] at found
                  cases found
              | some s =>
                  rw [tryRules_of_match grounded spent matched]
                  refine meets_proceed (closeAll_meets each _ _) ?_ ?_
                  · intro children next premises
                    exact ⟨rule, List.mem_cons_self, grounded, s, children, matched, rfl, premises⟩
                  · intro next premises
                    refine pass (fun _ other found => ?_) _
                    rw [matched] at found
                    cases found
                    exact premises

end

end Search

namespace Rulebook

/-- A tree that a rule closes a goal with is a derivation if the proofs of the premises are. -/
theorem throughout_of_closes {book : Rulebook} {levels : Nat} {goal : Judgment} {rule : Rule}
    {tree : ProofTree} (candidate : rule ∈ book.candidates goal.family)
    (closes : rule.Closes
      (fun premise child =>
        child.judgment = premise ∧ child.Throughout book.Justifies ∧ child.height ≤ levels)
      goal tree)
    : tree.judgment = goal ∧ tree.Throughout book.Justifies ∧ tree.height ≤ levels + 1 := by
  obtain ⟨grounded, s, children, matched, rfl, premises⟩ := closes
  obtain ⟨declared, family⟩ := mem_candidates.mp candidate
  have conclusion : (RuleInstance.mk rule s).conclusion.alphaEq goal = true :=
    Judgment.alphaEq_iff.mpr ⟨Term.alphaEq_of_match? matched, family⟩
  have judgments : (RuleInstance.mk rule s).premises = children.map ProofTree.judgment := by
    rw [← List.forall₂_eq_eq_eq, List.forall₂_map_right_iff]
    exact premises.imp fun _ _ proved => proved.1.symm
  have swapped : List.Forall₂
      (fun child premise =>
        (child.Throughout book.Justifies ∧ child.height ≤ levels)
        ∧ ProofTree.judgment child = premise)
      children (RuleInstance.mk rule s).premises :=
    (List.Forall₂.flip premises).imp fun _ _ proved => ⟨proved.2, proved.1⟩
  have each := ((List.forall₂_and_left _ _).mp swapped).1
  refine ⟨rfl, ?_, ?_⟩
  · exact .derived ⟨declared, grounded, conclusion, judgments⟩
      fun child member => (each child member).1
  · exact ProofTree.height_derived_le_iff.mpr fun child member => (each child member).2

/-- A goal is underivable if all rules of its family are useless for it. Whatever substitution a
derivation uses, its premises are those under the match.
-/
theorem not_derives_of_useless {book : Rulebook} {levels : Nat} {goal : Judgment}
    (useless : ∀ rule ∈ book.candidates goal.family,
      rule.Useless (fun premise => ¬ book.Derives levels premise) goal)
    : ¬ book.Derives (levels + 1) goal := by
  rintro ⟨rule, declared, grounded, family, s, same, premises⟩
  obtain ⟨found, matched⟩ := Term.exists_match? same
  have candidate := mem_candidates.mpr ⟨declared, family⟩
  obtain ⟨_, instantiated, underivable⟩ := useless rule candidate grounded found matched
  obtain ⟨premise, member, rfl⟩ := List.mem_map.mp instantiated
  have equal := rule.alphaEq_instantiate_of_match? grounded matched same member
  exact underivable ((premises premise member).congr (Judgment.alphaEq_symm equal))

end Rulebook

namespace Search

/-- What closing a goal within a number of levels comes to, by induction on the levels. -/
theorem close_meets (book : Rulebook) (budget : Option Nat) (remaining level : Nat)
    (goal : Judgment) (progress : Progress)
    : (close book budget remaining level goal progress).1.Meets
        (fun tree =>
          tree.judgment = goal ∧ tree.Throughout book.Justifies ∧ tree.height ≤ remaining)
        (¬ book.Derives remaining goal)
        (budget ≠ none) := by
  induction remaining generalizing level goal progress with
  | zero => exact id
  | succ remaining ih =>
      have limit : ∀ progress, isSpent budget progress = true → budget ≠ none := by
        rintro progress spent rfl
        cases spent
      rw [close]
      refine (tryRules_meets (ih (level + 1)) limit goal _ _).imp ?_ ?_
      · rintro tree ⟨rule, candidate, closes⟩
        exact Rulebook.throughout_of_closes candidate closes
      · exact Rulebook.not_derives_of_useless

end Search

end Backchain
