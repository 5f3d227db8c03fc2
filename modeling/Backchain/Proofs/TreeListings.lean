import Backchain.Proofs.CheckedDerivations

/-! The views of a proof tree describe one tree. The listings work on a stack of pending trees, in
which the subtrees of the first tree take its place; what they put out is what the nodes show in
pre-order. The checker goes through the nodes in the same order, so an unproved judgment at which it
stops is the first one listed.
-/

namespace Backchain

namespace ProofTree

-----------------------------------------------------------------------------------------
-- Nodes in pre-order
-----------------------------------------------------------------------------------------

mutual
/-- The nodes of a tree in pre-order, each with all that is below it. -/
def preorder : ProofTree → List ProofTree
  | .unproved goal => [.unproved goal]
  | .derived goal inst children => .derived goal inst children :: preorderAll children

/-- The nodes of several trees, tree by tree. -/
def preorderAll : List ProofTree → List ProofTree
  | [] => []
  | tree :: rest => tree.preorder ++ preorderAll rest
end

/-- The judgment of an unproved node. -/
def openGoal? : ProofTree → Option Judgment
  | .unproved goal => some goal
  | .derived _ _ _ => none

/-- The name of the rule that derives a node. -/
def appliedRule? : ProofTree → Option Symbol
  | .unproved _ => none
  | .derived _ inst _ => some inst.rule.name

theorem preorder_eq_children (tree : ProofTree)
    : tree.preorder = tree :: preorderAll tree.children := by
  cases tree <;> simp [preorder, preorderAll, children]

theorem preorderAll_eq_flatMap (trees : List ProofTree)
    : preorderAll trees = trees.flatMap preorder := by
  induction trees with
  | nil => rfl
  | cons tree rest ih => rw [preorderAll, List.flatMap_cons, ih]

theorem preorderAll_append (left right : List ProofTree)
    : preorderAll (left ++ right) = preorderAll left ++ preorderAll right := by
  simp only [preorderAll_eq_flatMap, List.flatMap_append]

-----------------------------------------------------------------------------------------
-- Listings with a stack
-----------------------------------------------------------------------------------------

/-- A listing that puts out what it sees at the first pending tree, and goes on with the subtrees of
that tree in its place, puts out what it sees in pre-order, by recursion on the number of nodes that
are pending.
-/
theorem listing_eq_filterMap {α : Type} {see : ProofTree → Option α}
    {listing : List ProofTree → List α} (done : listing [] = [])
    (step : ∀ tree rest,
      listing (tree :: rest) = (see tree).toList ++ listing (tree.children ++ rest))
    (pending : List ProofTree)
    : listing pending = (preorderAll pending).filterMap see := by
  match pending with
  | [] => exact done
  | tree :: rest =>
      have later := listing_eq_filterMap done step (tree.children ++ rest)
      rw [step, later, preorderAll_append, preorderAll, preorder_eq_children, List.cons_append]
      cases seen : see tree with
      | none => rw [List.filterMap_cons_none seen, Option.toList_none, List.nil_append]
      | some entry => rw [List.filterMap_cons_some seen, Option.toList_some, List.singleton_append]
termination_by totalNodeCount pending
decreasing_by
  rw [totalNodeCount_append, totalNodeCount, nodeCount_eq_children]
  omega

theorem openGoals_eq_filterMap (tree : ProofTree)
    : tree.openGoals = tree.preorder.filterMap openGoal? := by
  have step (first : ProofTree) (rest : List ProofTree)
      : openGoalsPending (first :: rest)
        = first.openGoal?.toList ++ openGoalsPending (first.children ++ rest) := by
    cases first <;> simp [openGoalsPending, openGoal?, children]
  rw [openGoals, listing_eq_filterMap (by rw [openGoalsPending]) step, preorderAll, preorderAll,
    List.append_nil]

theorem ruleNames_eq_filterMap (tree : ProofTree)
    : tree.ruleNames = tree.preorder.filterMap appliedRule? := by
  have step (first : ProofTree) (rest : List ProofTree)
      : ruleNamesPending (first :: rest)
        = first.appliedRule?.toList ++ ruleNamesPending (first.children ++ rest) := by
    cases first <;> simp [ruleNamesPending, appliedRule?, children]
  rw [ruleNames, listing_eq_filterMap (by rw [ruleNamesPending]) step, preorderAll, preorderAll,
    List.append_nil]

theorem openGoals_unproved (goal : Judgment) : (ProofTree.unproved goal).openGoals = [goal] := by
  rw [openGoals_eq_filterMap]
  rfl

theorem openGoals_derived (goal : Judgment) (inst : RuleInstance) (children : List ProofTree)
    : (ProofTree.derived goal inst children).openGoals = children.flatMap openGoals := by
  rw [openGoals_eq_filterMap, preorder, List.filterMap_cons_none rfl, preorderAll_eq_flatMap,
    List.filterMap_flatMap, ← funext openGoals_eq_filterMap]

theorem ruleNames_unproved (goal : Judgment) : (ProofTree.unproved goal).ruleNames = [] := by
  rw [ruleNames_eq_filterMap]
  rfl

theorem ruleNames_derived (goal : Judgment) (inst : RuleInstance) (children : List ProofTree)
    : (ProofTree.derived goal inst children).ruleNames
      = inst.rule.name :: children.flatMap ruleNames := by
  have here : (ProofTree.derived goal inst children).appliedRule? = some inst.rule.name := rfl
  rw [ruleNames_eq_filterMap, preorder, List.filterMap_cons_some here, preorderAll_eq_flatMap,
    List.filterMap_flatMap, ← funext ruleNames_eq_filterMap]

-----------------------------------------------------------------------------------------
-- Completeness and size
-----------------------------------------------------------------------------------------

/-- A tree is complete exactly when it lists no unproved judgment, by induction on the tree. -/
theorem isComplete_iff_openGoals {tree : ProofTree}
    : tree.isComplete = true ↔ tree.openGoals = [] := by
  induction tree with
  | unproved goal => simp [isComplete, openGoals_unproved]
  | derived goal inst children ih =>
      rw [isComplete, areComplete_iff, openGoals_derived, List.flatMap_eq_nil_iff]
      exact forall₂_congr ih

/-- Sizes and listed rule names add up alike over several trees, by induction on the list. -/
theorem length_flatMap_ruleNames {trees : List ProofTree}
    (each : ∀ tree ∈ trees, tree.ruleNames.length = tree.size)
    : (trees.flatMap ruleNames).length = totalSize trees := by
  induction trees with
  | nil => rfl
  | cons tree rest ih =>
      have others := ih fun other member => each other (List.mem_cons_of_mem tree member)
      rw [List.flatMap_cons, List.length_append, each tree List.mem_cons_self, others, totalSize]

theorem length_ruleNames (tree : ProofTree) : tree.ruleNames.length = tree.size := by
  induction tree with
  | unproved goal => rw [ruleNames_unproved, List.length_nil, size]
  | derived goal inst children ih =>
      rw [ruleNames_derived, List.length_cons, length_flatMap_ruleNames ih, size, Nat.add_comm]

-----------------------------------------------------------------------------------------
-- Where the checker stops
-----------------------------------------------------------------------------------------

/-- One of several trees fails the check for a cause, and those to its left pass. -/
def FirstFails (book : Rulebook) (cause : CheckError) (trees : List ProofTree) : Prop :=
  ∃ before tree after,
    trees = before ++ tree :: after
    ∧ (∀ earlier ∈ before, earlier.check book = .ok ())
    ∧ tree.check book = .error cause

/-- A tree that passes has no unproved node, by induction on the tree. -/
theorem isComplete_of_check {book : Rulebook} {tree : ProofTree} (passed : tree.check book = .ok ())
    : tree.isComplete = true := by
  induction tree with
  | unproved goal =>
      rw [check] at passed
      cases passed
  | derived goal inst children ih =>
      rw [isComplete, areComplete_iff]
      intro child member
      exact ih child member ((check_derived_iff_licenses.mp passed).2 child member)

/-- Subtrees that are found to fail at an unproved judgment do so in the first one that fails, by
induction on the premises: a premise that is not met is another cause.
-/
theorem firstFails_of_checkPremises {book : Rulebook} {rule : Symbol} {index : Nat}
    {premises : List Judgment} {children : List ProofTree} {goal : Judgment}
    (stopped : checkPremises book rule index premises children = .error (.openGoal goal))
    : FirstFails book (.openGoal goal) children := by
  induction premises generalizing index children with
  | nil => simp [checkPremises] at stopped
  | cons premise premises ih =>
      cases children with
      | nil => simp [checkPremises] at stopped
      | cons first rest =>
          rw [checkPremises] at stopped
          split at stopped
          · split at stopped
            · rename_i cause failed
              cases stopped
              exact ⟨[], first, rest, rfl, by simp, failed⟩
            · rename_i passed
              obtain ⟨before, child, after, rfl, earlier, failed⟩ := ih stopped
              refine ⟨first :: before, child, after, rfl, ?_, failed⟩
              exact List.forall_mem_cons.mpr ⟨passed, earlier⟩
          · cases stopped

/-- A derived node that fails at an unproved judgment does so in its subtrees, since what is found
at the node itself is another cause.
-/
theorem firstFails_of_check {book : Rulebook} {node goal : Judgment} {inst : RuleInstance}
    {children : List ProofTree}
    (stopped : (ProofTree.derived node inst children).check book = .error (.openGoal goal))
    : FirstFails book (.openGoal goal) children := by
  rw [check] at stopped
  split at stopped
  · cases stopped
  · split at stopped
    · cases stopped
    · split at stopped
      · cases stopped
      · split at stopped
        · cases stopped
        · exact firstFails_of_checkPremises stopped

/-- The unproved judgment at which the checker stops is the first one, by induction on the tree: the
subtrees it has passed are complete and list nothing.
-/
theorem head?_openGoals_of_check {book : Rulebook} {tree : ProofTree} {goal : Judgment}
    (stopped : tree.check book = .error (.openGoal goal))
    : tree.openGoals.head? = some goal := by
  induction tree with
  | unproved node =>
      rw [check] at stopped
      cases stopped
      rw [openGoals_unproved, List.head?_cons]
  | derived node inst children ih =>
      obtain ⟨before, child, after, rfl, earlier, failed⟩ := firstFails_of_check stopped
      have nothing : before.flatMap openGoals = [] := by
        rw [List.flatMap_eq_nil_iff]
        intro tree among
        exact isComplete_iff_openGoals.mp (isComplete_of_check (earlier tree among))
      have first := ih child (by simp) failed
      rw [openGoals_derived, List.flatMap_append, nothing, List.nil_append, List.flatMap_cons,
        List.head?_append, first, Option.some_or]

/-- The views of a tree agree, however it was built. It is complete exactly when it lists no
unproved judgment. The listings with a stack show, in pre-order, the judgments of the unproved nodes
and the names of the applied rules, of which there are as many as the size says. An unproved
judgment that the checker reports, whatever the rulebook, is among those listed.
-/
theorem views_agree (tree : ProofTree)
    : (tree.isComplete = true ↔ tree.openGoals = [])
      ∧ tree.openGoals = tree.preorder.filterMap openGoal?
      ∧ tree.ruleNames = tree.preorder.filterMap appliedRule?
      ∧ tree.ruleNames.length = tree.size
      ∧ ∀ (book : Rulebook) (goal : Judgment),
          tree.check book = .error (.openGoal goal) → goal ∈ tree.openGoals := by
  refine ⟨isComplete_iff_openGoals, tree.openGoals_eq_filterMap, tree.ruleNames_eq_filterMap,
    tree.length_ruleNames, ?_⟩
  intro book goal stopped
  exact List.mem_of_mem_head? (head?_openGoals_of_check stopped)

/-- A variable is at most zero, by two steps of transitivity, one within the other. The first half
of the outer step is proved, and both halves of the inner one are left open.
-/
def halfProved : ProofTree :=
  let rule (name : Symbol) (known : Samples.order.get? name ≠ none) : RuleInstance :=
    ⟨(Samples.order.get? name).get (Option.isSome_iff_ne_none.mpr known), .identity⟩
  let b := Samples.v "b"
  .derived (Samples.le b Samples.zero) (rule "le_trans" (by decide))
    [
      .derived (Samples.le b b) (rule "le_refl" (by decide)) [],
      .derived (Samples.le b Samples.zero) (rule "le_trans" (by decide))
        [.unproved (Samples.le b b), .unproved (Samples.le b Samples.zero)]
    ]

theorem views_agree_of_halfProved
    : let b := Samples.v "b"
      halfProved.isComplete = false
      ∧ halfProved.openGoals = [Samples.le b b, Samples.le b Samples.zero]
      ∧ halfProved.ruleNames = ["le_trans", "le_refl", "le_trans"]
      ∧ halfProved.check Samples.order = .error (.openGoal (Samples.le b b))
      ∧ Samples.le b b ∈ halfProved.openGoals := by
  have stopped : halfProved.check Samples.order
      = .error (.openGoal (Samples.le (Samples.v "b") (Samples.v "b"))) := by
    rfl
  obtain ⟨_, goals, names, _, reported⟩ := views_agree halfProved
  exact ⟨rfl, goals, names, stopped, reported Samples.order _ stopped⟩

end ProofTree

end Backchain
