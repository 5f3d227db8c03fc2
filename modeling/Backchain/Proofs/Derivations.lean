import Backchain.ProofTree
import Backchain.Proofs.MatchCompleteness
import Backchain.Rulebook

/-! Derivations from the grounded rules of a rulebook, as trees and as a relation on judgments that
counts levels. A judgment can be derived within a number of levels exactly when it has a tree of at
most that height.
-/

namespace Backchain

-----------------------------------------------------------------------------------------
-- Trees
-----------------------------------------------------------------------------------------

namespace ProofTree

/-- Every node of a tree is derived and stands in a relation with its rule instance and its
subtrees.
-/
inductive Throughout (holds : Judgment → RuleInstance → List ProofTree → Prop)
    : ProofTree → Prop
  | derived {goal : Judgment} {inst : RuleInstance} {children : List ProofTree}
    (here : holds goal inst children)
    (below : ∀ child ∈ children, Throughout holds child)
    : Throughout holds (.derived goal inst children)

theorem areComplete_iff {trees : List ProofTree}
    : areComplete trees = true ↔ ∀ tree ∈ trees, tree.isComplete = true := by
  induction trees with
  | nil => simp [areComplete]
  | cons tree rest ih => simp [areComplete, ih]

theorem greatestHeight_le_iff {trees : List ProofTree} {bound : Nat}
    : greatestHeight trees ≤ bound ↔ ∀ tree ∈ trees, tree.height ≤ bound := by
  induction trees with
  | nil => simp [greatestHeight]
  | cons tree rest ih => rw [greatestHeight, Nat.max_le, ih, List.forall_mem_cons]

theorem height_derived_le_iff {goal : Judgment} {inst : RuleInstance}
    {children : List ProofTree} {bound : Nat}
    : (ProofTree.derived goal inst children).height ≤ bound + 1
      ↔ ∀ child ∈ children, child.height ≤ bound := by
  rw [height, ← greatestHeight_le_iff]
  omega

/-- A tree without unproved nodes is complete, by induction on the tree. -/
theorem Throughout.isComplete {holds : Judgment → RuleInstance → List ProofTree → Prop}
    {tree : ProofTree} (each : tree.Throughout holds)
    : tree.isComplete = true := by
  induction each with
  | derived _ _ ih =>
      rw [ProofTree.isComplete, areComplete_iff]
      exact ih

end ProofTree

namespace Rulebook

theorem candidates_eq (book : Rulebook) (family : Family)
    : book.candidates family = book.toList.filter (fun rule => rule.family = family) :=
  book.indexed.family family

theorem mem_candidates {book : Rulebook} {family : Family} {rule : Rule}
    : rule ∈ book.candidates family ↔ rule ∈ book.toList ∧ rule.family = family := by
  simp [candidates_eq]

/-- A declared rule is the one found under its name. -/
theorem get?_of_mem {book : Rulebook} {rule : Rule} (declared : rule ∈ book.toList)
    : book.get? rule.name = some rule := by
  obtain ⟨i, bound, here⟩ := List.mem_iff_getElem.mp declared
  have found : book.rules[i]? = some rule := by
    rw [← Array.getElem?_toList]
    exact List.getElem?_eq_some_iff.mpr ⟨bound, here⟩
  have name := (book.indexed.name rule.name i).mpr ⟨rule, found, rfl⟩
  rw [get?, name, Option.bind_some, found]

/-- The rule found under a name is declared and has that name. -/
theorem get?_eq_some_iff {book : Rulebook} {name : Symbol} {rule : Rule}
    : book.get? name = some rule ↔ rule ∈ book.toList ∧ rule.name = name := by
  constructor
  · intro known
    obtain ⟨i, position, found⟩ := Option.bind_eq_some_iff.mp known
    obtain ⟨named, here, same⟩ := (book.indexed.name name i).mp position
    rw [found] at here
    cases here
    exact ⟨Array.mem_toList_iff.mpr (Array.mem_of_getElem? found), same⟩
  · intro declared
    rw [← declared.2]
    exact get?_of_mem declared.1

/-- A node applies a grounded rule of the book: the conclusion of its rule instance is its judgment,
up to bound names, and the premises are the judgments of its subtrees in order.
-/
structure Justifies (book : Rulebook) (goal : Judgment) (inst : RuleInstance)
    (children : List ProofTree)
    : Prop where
  declared : inst.rule ∈ book.toList
  grounded : inst.rule.grounded = true
  conclusion : inst.conclusion.alphaEq goal = true
  premises : inst.premises = children.map ProofTree.judgment

end Rulebook

-----------------------------------------------------------------------------------------
-- Grounded rules
-----------------------------------------------------------------------------------------

theorem VarSet.isEmpty_iff {s : VarSet} : s.isEmpty = true ↔ ∀ x, x ∉ s := by
  have listed : s.isEmpty = true ↔ s.toList = [] := by
    simp [isEmpty, VarMap.isEmpty, toList, VarMap.keys]
  simp [listed, List.eq_nil_iff_forall_not_mem]

namespace Rule

/-- A rule is grounded exactly when every variable of its premises occurs in the conclusion. -/
theorem grounded_iff {rule : Rule}
    : rule.grounded = true
      ↔ ∀ premise ∈ rule.premises, ∀ x ∈ premise.freeVars, x ∈ rule.conclusion.freeVars := by
  rw [rule.grounded_eq, VarSet.isEmpty_iff]
  simp only [RuleDraft.unboundVars, VarSet.mem_diff, Term.mem_freeVarsAll, not_and,
    Decidable.not_not]
  constructor
  · intro bound premise member x hx
    exact bound x ⟨premise.term, List.mem_map.mpr ⟨premise, member, rfl⟩, hx⟩
  · intro bound x occurs
    obtain ⟨t, listed, hx⟩ := occurs
    obtain ⟨premise, member, rfl⟩ := List.mem_map.mp listed
    exact bound premise member x hx

theorem mem_freeVars_conclusion {rule : Rule} (grounded : rule.grounded = true)
    {premise : Judgment} (member : premise ∈ rule.premises) {x : Variable}
    (hx : x ∈ premise.freeVars)
    : x ∈ rule.conclusion.freeVars :=
  grounded_iff.mp grounded premise member x hx

/-- The match of a grounded rule's conclusion fixes its premises: any other substitution that takes
the conclusion to the goal gives equal premises.
-/
theorem alphaEq_instantiate_of_match? {rule : Rule} (grounded : rule.grounded = true)
    {target : Term} {s found : Substitution}
    (matched : rule.conclusion.term.match? target = some found)
    (same : (s.apply rule.conclusion.term).alphaEq target = true)
    {premise : Judgment} (member : premise ∈ rule.premises)
    : (premise.instantiate found).alphaEq (premise.instantiate s) = true := by
  refine Judgment.alphaEq_iff.mpr ⟨Term.alphaEq_iff.mpr ?_, rfl⟩
  refine Substitution.nameless_apply_inj.mpr fun x hx => ?_
  exact Term.nameless_eq_of_match? matched same (mem_freeVars_conclusion grounded member hx)

end Rule

-----------------------------------------------------------------------------------------
-- Derivability within a number of levels
-----------------------------------------------------------------------------------------

namespace Rulebook

/-- A judgment can be derived within a number of levels if some grounded rule of its family has an
instance that concludes it, up to bound names, from premises derived within one level less.
-/
def Derives (book : Rulebook) : Nat → Judgment → Prop
  | 0, _ => False
  | levels + 1, goal =>
      ∃ rule ∈ book.toList,
        rule.grounded = true
        ∧ rule.family = goal.family
        ∧ ∃ s : Substitution,
            (s.apply rule.conclusion.term).alphaEq goal.term = true
            ∧ ∀ premise ∈ rule.premises, book.Derives levels (premise.instantiate s)

/-- More levels derive no less, by induction on the levels. -/
theorem Derives.mono {book : Rulebook} {levels more : Nat} {goal : Judgment}
    (derived : book.Derives levels goal) (le : levels ≤ more)
    : book.Derives more goal := by
  induction levels generalizing more goal with
  | zero => exact derived.elim
  | succ levels ih =>
      obtain ⟨rule, declared, grounded, family, s, same, premises⟩ := derived
      cases more with
      | zero => exact absurd le (Nat.not_succ_le_zero levels)
      | succ more =>
          refine ⟨rule, declared, grounded, family, s, same, fun premise member => ?_⟩
          exact ih (premises premise member) (Nat.le_of_succ_le_succ le)

/-- Derivability does not depend on bound names. -/
theorem Derives.congr {book : Rulebook} {levels : Nat} {goal other : Judgment}
    (derived : book.Derives levels goal) (equal : goal.alphaEq other = true)
    : book.Derives levels other := by
  cases levels with
  | zero => exact derived
  | succ levels =>
      obtain ⟨terms, families⟩ := Judgment.alphaEq_iff.mp equal
      obtain ⟨rule, declared, grounded, family, s, same, premises⟩ := derived
      exact ⟨rule, declared, grounded, family.trans families, s,
        Term.alphaEq_trans same terms, premises⟩

end Rulebook

end Backchain
