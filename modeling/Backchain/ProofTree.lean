import Backchain.Rule

/-! Proof trees: a judgment that is still unproved, or a judgment derived by a rule instance from
one subtree for each premise. A tree may be built in any way; whether it proves anything is for the
checker to say.
-/

namespace Backchain

/-- A proof tree. -/
inductive ProofTree where
  | unproved (goal : Judgment)
  | derived (goal : Judgment) (inst : RuleInstance) (children : List ProofTree)
deriving Inhabited

namespace ProofTree

/-- Induction on proof trees, with a hypothesis for every subtree. -/
@[induction_eliminator]
theorem induct {motive : ProofTree → Prop} (unproved : ∀ goal, motive (.unproved goal))
    (derived : ∀ goal inst children, (∀ child ∈ children, motive child)
      → motive (.derived goal inst children))
    : ∀ tree, motive tree := by
  intro tree
  refine ProofTree.rec (motive_1 := motive)
    (motive_2 := fun children => ∀ child ∈ children, motive child)
    unproved derived (fun _ h => nomatch h) (fun first rest hf hr child hm => ?_) tree
  rcases List.mem_cons.mp hm with rfl | hm
  · exact hf
  · exact hr child hm

/-- The judgment at the root. -/
def judgment : ProofTree → Judgment
  | .unproved goal => goal
  | .derived goal _ _ => goal

/-- The subtrees of the root. -/
def children : ProofTree → List ProofTree
  | .unproved _ => []
  | .derived _ _ children => children

/-- Whether the root is still unproved. -/
def isUnproved : ProofTree → Bool
  | .unproved _ => true
  | .derived _ _ _ => false

mutual
/-- Whether no judgment of the tree is unproved. -/
def isComplete : ProofTree → Bool
  | .unproved _ => false
  | .derived _ _ children => areComplete children

/-- Whether no judgment of several trees is unproved. -/
def areComplete : List ProofTree → Bool
  | [] => true
  | tree :: rest => tree.isComplete && areComplete rest
end

mutual
/-- The number of rule applications. -/
def size : ProofTree → Nat
  | .unproved _ => 0
  | .derived _ _ children => 1 + totalSize children

/-- The number of rule applications of several trees. -/
def totalSize : List ProofTree → Nat
  | [] => 0
  | tree :: rest => tree.size + totalSize rest
end

mutual
/-- The number of rule applications on the longest path from the root. -/
def height : ProofTree → Nat
  | .unproved _ => 0
  | .derived _ _ children => 1 + greatestHeight children

/-- The height of the highest of several trees. -/
def greatestHeight : List ProofTree → Nat
  | [] => 0
  | tree :: rest => max tree.height (greatestHeight rest)
end

mutual
/-- Whether two trees have equal judgments, up to bound names, and rules of the same names. The
substitutions are not compared.
-/
def alphaEq : ProofTree → ProofTree → Bool
  | .unproved goal, .unproved other => goal.alphaEq other
  | .derived goal inst children, .derived other otherInst others =>
      goal.alphaEq other && inst.rule.name = otherInst.rule.name && areAlphaEq children others
  | _, _ => false

/-- Whether two lists of trees are equal, tree by tree and of one length. -/
def areAlphaEq : List ProofTree → List ProofTree → Bool
  | [], [] => true
  | tree :: rest, other :: others => tree.alphaEq other && areAlphaEq rest others
  | _, _ => false
end

-----------------------------------------------------------------------------------------
-- Listings
-----------------------------------------------------------------------------------------

mutual
/-- The number of nodes, unproved ones included. -/
def nodeCount : ProofTree → Nat
  | .unproved _ => 1
  | .derived _ _ children => 1 + totalNodeCount children

/-- The number of nodes of several trees. -/
def totalNodeCount : List ProofTree → Nat
  | [] => 0
  | tree :: rest => tree.nodeCount + totalNodeCount rest
end

theorem totalNodeCount_append (left right : List ProofTree)
    : totalNodeCount (left ++ right) = totalNodeCount left + totalNodeCount right := by
  induction left with
  | nil => simp [totalNodeCount]
  | cons tree rest ih => simp only [List.cons_append, totalNodeCount, ih]; omega

/-- A node is counted beside the nodes of its subtrees. -/
theorem nodeCount_eq_children (tree : ProofTree)
    : tree.nodeCount = 1 + totalNodeCount tree.children := by
  cases tree <;> simp [nodeCount, totalNodeCount, children]

/-- The unproved judgments of pending trees, first to last. -/
def openGoalsPending (pending : List ProofTree) : List Judgment :=
  match pending with
  | [] => []
  | .unproved goal :: rest => goal :: openGoalsPending rest
  | .derived _ _ children :: rest => openGoalsPending (children ++ rest)
termination_by totalNodeCount pending
decreasing_by
  all_goals
    simp only [totalNodeCount, totalNodeCount_append, nodeCount]
    omega

/-- The unproved judgments in pre-order. -/
def openGoals (tree : ProofTree) : List Judgment := openGoalsPending [tree]

/-- The names of the rules applied in pending trees, first to last. -/
def ruleNamesPending (pending : List ProofTree) : List Symbol :=
  match pending with
  | [] => []
  | .unproved _ :: rest => ruleNamesPending rest
  | .derived _ inst children :: rest => inst.rule.name :: ruleNamesPending (children ++ rest)
termination_by totalNodeCount pending
decreasing_by
  all_goals
    simp only [totalNodeCount, totalNodeCount_append, nodeCount]
    omega

/-- The names of the applied rules in pre-order. -/
def ruleNames (tree : ProofTree) : List Symbol := ruleNamesPending [tree]

end ProofTree

end Backchain
