import Backchain.Proofs.Instantiation
import Backchain.Proofs.UnlimitedSearch

/-! The proof that a search returns is the canonical first one. Every part of it is the proof that a
search of its own finds, under the same limit, since what a premise takes is a part of what the goal
takes.
-/

namespace Backchain

/-- The parts of a tree whose roots stand a number of levels below its root, from left to right. -/
def ProofTree.nodesAt : Nat → ProofTree → List ProofTree
  | 0, tree => [tree]
  | depth + 1, tree => tree.children.flatMap (nodesAt depth)

theorem RuleInstance.premises_valid (inst : RuleInstance)
    : ∀ premise ∈ inst.premises, premise.Valid := by
  intro instantiated member
  obtain ⟨premise, premised, rfl⟩ := List.mem_map.mp member
  exact (inst.rule.premises_valid premise premised).instantiate inst.substitution

-----------------------------------------------------------------------------------------
-- What the parts of a search take
-----------------------------------------------------------------------------------------

section

variable {prove : Judgment → Option ProofTree} {cost : Judgment → Nat}

theorem Judgment.isSome_mapM (goals : List Judgment)
    : (goals.mapM prove).isSome = goals.all (fun goal => (prove goal).isSome) := by
  induction goals with
  | nil => rfl
  | cons goal rest ih =>
      rw [List.mapM_cons, List.all_cons, ← ih]
      cases prove goal with
      | none => rfl
      | some tree => cases rest.mapM prove <;> rfl

/-- If all goals are proved, what they take includes what each of them takes, by induction on the
goals.
-/
theorem Judgment.cost_le_costs {goals : List Judgment} (proved : (goals.mapM prove).isSome = true)
    {goal : Judgment} (member : goal ∈ goals)
    : cost goal ≤ costs prove cost goals := by
  induction goals with
  | nil => cases member
  | cons first rest ih =>
      rw [isSome_mapM, List.all_cons, Bool.and_eq_true, ← isSome_mapM] at proved
      rw [costs, if_pos proved.1]
      rcases List.mem_cons.mp member with rfl | later
      · exact Nat.le_add_right _ _
      · exact Nat.le_trans (ih proved.2 later) (Nat.le_add_left _ _)

/-- What rules take includes what the first one takes that gives a proof, by induction on the rules
before it.
-/
theorem Rule.cost_le_costs {goal : Judgment} {earlier later : List Rule} {rule : Rule}
    (passed : ∀ other ∈ earlier, other.proof? prove goal = none)
    : rule.cost prove cost goal ≤ costs prove cost goal (earlier ++ rule :: later) := by
  induction earlier with
  | nil => exact Nat.le_add_right _ _
  | cons other rest ih =>
      have here := passed other List.mem_cons_self
      have below := ih fun another member => passed another (List.mem_cons_of_mem other member)
      rw [List.cons_append, costs, here]
      exact Nat.le_trans below (Nat.le_add_left _ _)

end

namespace Search

-----------------------------------------------------------------------------------------
-- The rules that are passed over
-----------------------------------------------------------------------------------------

/-- Whether a search proves a goal within a depth bound, under a limit on the attempts if there is
one.
-/
def proves (book : Rulebook) (limit : Option Nat) (depthBound : Nat) (goal : Judgment) : Bool :=
  (run book limit (.unproved goal) depthBound).result.isOk

/-- Whether a rule leads to a proof of a goal: it is a grounded rule of the goal's family whose
conclusion matches the goal, and a search proves each premise so instantiated within a depth bound.
-/
def leadsToProof (book : Rulebook) (limit : Option Nat) (depthBound : Nat) (goal : Judgment)
    (rule : Rule)
    : Bool :=
  rule.family = goal.family
    && rule.grounded
    && (rule.conclusion.term.match? goal.term).any (fun s =>
      (RuleInstance.mk rule s).premises.all (proves book limit depthBound))

theorem exists_of_mem_mapM {prove : Judgment → Option ProofTree} {goals : List Judgment}
    {trees : List ProofTree} (proved : goals.mapM prove = some trees) {tree : ProofTree}
    (member : tree ∈ trees)
    : ∃ goal ∈ goals, prove goal = some tree := by
  induction goals generalizing trees with
  | nil =>
      cases proved
      cases member
  | cons goal rest ih =>
      rw [List.mapM_cons] at proved
      obtain ⟨head, first, others⟩ := Option.bind_eq_some_iff.mp proved
      obtain ⟨tail, later, joined⟩ := Option.bind_eq_some_iff.mp others
      cases joined
      rcases List.mem_cons.mp member with rfl | member
      · exact ⟨goal, List.mem_cons_self, first⟩
      · obtain ⟨other, among, given⟩ := ih later member
        exact ⟨other, List.mem_cons_of_mem goal among, given⟩

/-- A search proves a goal under a limit if there is a first proof and the limit allows for it. -/
theorem proves_iff {book : Rulebook} {limit : Option Nat} {depthBound : Nat} {goal : Judgment}
    (valid : goal.Valid)
    : proves book limit depthBound goal = true
      ↔ (book.firstProof? depthBound goal).isSome = true
        ∧ ∀ top ∈ limit, book.cost depthBound goal ≤ top := by
  rw [proves, Option.isSome_iff_exists]
  constructor
  · intro succeeds
    obtain ⟨tree, found⟩ := exists_of_isOk succeeds
    obtain ⟨_, first, enough⟩ := run_eq_ok_iff.mp found
    exact ⟨⟨tree, first⟩, enough⟩
  · rintro ⟨⟨tree, first⟩, enough⟩
    rw [run_eq_ok_iff.mpr ⟨valid, first, enough⟩]
    rfl

/-- A rule leads to a proof under a limit exactly when it is a rule of the goal's family that gives
one, and the limit allows for each of its premises.
-/
theorem leadsToProof_iff {book : Rulebook} {limit : Option Nat} {levels : Nat} {goal : Judgment}
    {rule : Rule}
    : leadsToProof book limit levels goal rule = true
      ↔ rule.family = goal.family
        ∧ ∃ s children,
            rule.proof? (book.firstProof? levels) goal = some (.derived goal ⟨rule, s⟩ children)
            ∧ ∀ premise ∈ (RuleInstance.mk rule s).premises, ∀ top ∈ limit,
                book.cost levels premise ≤ top := by
  rw [leadsToProof, Bool.and_eq_true, Bool.and_eq_true, decide_eq_true_eq, and_assoc]
  refine and_congr_right fun _ => ?_
  constructor
  · rintro ⟨grounded, leads⟩
    cases matched : rule.conclusion.term.match? goal.term with
    | none =>
        rw [matched] at leads
        cases leads
    | some s =>
        rw [matched, Option.any_some, List.all_eq_true] at leads
        have each : ∀ premise ∈ (RuleInstance.mk rule s).premises,
            (book.firstProof? levels premise).isSome = true
            ∧ ∀ top ∈ limit, book.cost levels premise ≤ top :=
          fun premise member => (proves_iff
            ((RuleInstance.mk rule s).premises_valid premise member)).mp (leads premise member)
        have all : ((RuleInstance.mk rule s).premises.mapM (book.firstProof? levels)).isSome
            = true := by
          rw [Judgment.isSome_mapM, List.all_eq_true]
          exact fun premise member => (each premise member).1
        obtain ⟨children, proved⟩ := Option.isSome_iff_exists.mp all
        refine ⟨s, children, ?_, fun premise member => (each premise member).2⟩
        simp [Rule.proof?, grounded, matched, proved]
  · rintro ⟨s, children, given, enough⟩
    obtain ⟨grounded, found, _, matched, proved, same⟩ := Rule.proof?_eq_some given
    cases same
    refine ⟨grounded, ?_⟩
    rw [matched, Option.any_some, List.all_eq_true]
    have all : ((RuleInstance.mk rule s).premises.mapM (book.firstProof? levels)).isSome
        = true := by
      rw [proved]
      rfl
    rw [Judgment.isSome_mapM, List.all_eq_true] at all
    intro premise member
    exact (proves_iff ((RuleInstance.mk rule s).premises_valid premise member)).mpr
      ⟨all premise member, enough premise member⟩

-----------------------------------------------------------------------------------------
-- Parts of a proof
-----------------------------------------------------------------------------------------

/-- The first proof of a goal applies the first rule that leads to one, to the first proofs of its
premises. A limit that allows for the goal allows for each of them.
-/
theorem firstProof?_succ_eq_some {book : Rulebook} {limit : Option Nat} {levels : Nat}
    {goal : Judgment} {tree : ProofTree}
    (found : book.firstProof? (levels + 1) goal = some tree)
    (enough : ∀ top ∈ limit, book.cost (levels + 1) goal ≤ top)
    : ∃ rule s children,
        tree = .derived goal ⟨rule, s⟩ children
        ∧ book.toList.find? (leadsToProof book limit levels goal) = some rule
        ∧ ∀ child ∈ children,
            ∃ premise ∈ (RuleInstance.mk rule s).premises,
              book.firstProof? levels premise = some child
              ∧ ∀ top ∈ limit, book.cost levels premise ≤ top := by
  obtain ⟨earlier, rule, later, split, given, passed⟩ := List.findSome?_eq_some_iff.mp found
  obtain ⟨grounded, s, children, matched, proved, rfl⟩ := Rule.proof?_eq_some given
  have allowed : ∀ premise ∈ (RuleInstance.mk rule s).premises, ∀ top ∈ limit,
      book.cost levels premise ≤ top := by
    intro premise member top limited
    have all : ((RuleInstance.mk rule s).premises.mapM (book.firstProof? levels)).isSome
        = true := by
      rw [proved]
      rfl
    calc book.cost levels premise
        ≤ Judgment.costs (book.firstProof? levels) (book.cost levels)
            (RuleInstance.mk rule s).premises := Judgment.cost_le_costs all member
      _ ≤ rule.cost (book.firstProof? levels) (book.cost levels) goal := by
          rw [Rule.cost, if_pos grounded, matched]
          exact Nat.le_add_left _ _
      _ ≤ book.cost (levels + 1) goal := by
          rw [Rulebook.cost, split]
          exact Rule.cost_le_costs passed
      _ ≤ top := enough top limited
  have candidate : rule ∈ book.candidates goal.family := by
    rw [split]
    exact List.mem_append_right earlier List.mem_cons_self
  have leads : leadsToProof book limit levels goal rule = true :=
    leadsToProof_iff.mpr ⟨(Rulebook.mem_candidates.mp candidate).2, s, children, given, allowed⟩
  refine ⟨rule, s, children, rfl, ?_, ?_⟩
  · -- Rules of other families lead nowhere, so it does not matter that they are not tried.
    have family : book.toList.find? (leadsToProof book limit levels goal)
        = (book.candidates goal.family).find? (leadsToProof book limit levels goal) := by
      rw [Rulebook.candidates_eq, List.find?_filter]
      congr 1
      funext other
      cases same : decide (other.family = goal.family) <;> simp [leadsToProof, same]
    rw [family, List.find?_eq_some_iff_append]
    refine ⟨leads, earlier, later, split, fun other member => ?_⟩
    rw [Bool.not_eq_true', Bool.eq_false_iff]
    intro early
    obtain ⟨_, _, _, gives, _⟩ := leadsToProof_iff.mp early
    cases gives.symm.trans (passed other member)
  · intro child member
    obtain ⟨premise, premised, first⟩ := exists_of_mem_mapM proved member
    exact ⟨premise, premised, first, allowed premise premised⟩

/-- Whatever stands in the first proof of a goal is the first proof of its own judgment within the
levels left there, and a limit that allows for the goal allows for it, by induction on the depth.
-/
theorem firstProof?_of_mem_nodesAt {book : Rulebook} {limit : Option Nat} {levels : Nat}
    {goal : Judgment} {tree : ProofTree} (valid : goal.Valid)
    (found : book.firstProof? levels goal = some tree)
    (enough : ∀ top ∈ limit, book.cost levels goal ≤ top) {depth : Nat} {node : ProofTree}
    (stands : node ∈ tree.nodesAt depth)
    : depth < levels
      ∧ node.judgment.Valid
      ∧ book.firstProof? (levels - depth) node.judgment = some node
      ∧ ∀ top ∈ limit, book.cost (levels - depth) node.judgment ≤ top := by
  induction depth generalizing levels goal tree with
  | zero =>
      obtain rfl := List.mem_singleton.mp stands
      cases levels with
      | zero => cases found
      | succ levels =>
          obtain ⟨rule, s, children, rfl, _⟩ := firstProof?_succ_eq_some found enough
          exact ⟨Nat.succ_pos levels, valid, found, enough⟩
  | succ depth ih =>
      cases levels with
      | zero => cases found
      | succ levels =>
          obtain ⟨rule, s, children, rfl, _, premises⟩ := firstProof?_succ_eq_some found enough
          obtain ⟨child, among, below⟩ := List.mem_flatMap.mp stands
          obtain ⟨premise, premised, proved, allowed⟩ := premises child among
          obtain ⟨within, rest⟩ :=
            ih ((RuleInstance.mk rule s).premises_valid premise premised) proved allowed below
          rw [Nat.add_sub_add_right]
          exact ⟨Nat.succ_lt_succ within, rest⟩

/-- The proof that a search returns is the canonical one. At every node, some levels below the root,
the rule applied is the first in declaration order that leads to a proof with the levels left below
the node, and the part of the proof from there on is exactly the proof that a search of the node's
judgment returns within the levels left at the node. All these searches may be unlimited, or under
the limit on the attempts that the search of the root is under.
-/
theorem run_canonical {book : Rulebook} {limit : Option Nat} {goal : Judgment} {depthBound : Nat}
    {tree : ProofTree} (found : (run book limit (.unproved goal) depthBound).result = .ok tree)
    : ∀ depth, ∀ node ∈ tree.nodesAt depth,
        depth < depthBound
        ∧ (∃ inst children,
            node = .derived node.judgment inst children
            ∧ book.toList.find? (leadsToProof book limit (depthBound - depth - 1) node.judgment)
              = some inst.rule)
        ∧ (run book limit (.unproved node.judgment) (depthBound - depth)).result = .ok node := by
  intro depth node stands
  obtain ⟨valid, first, enough⟩ := run_eq_ok_iff.mp found
  obtain ⟨within, judged, here, allowed⟩ :=
    firstProof?_of_mem_nodesAt valid first enough stands
  refine ⟨within, ?_, run_eq_ok_iff.mpr ⟨judged, here, allowed⟩⟩
  obtain ⟨levels, left⟩ : ∃ levels, depthBound - depth = levels + 1 :=
    ⟨depthBound - depth - 1, by omega⟩
  rw [left] at here allowed ⊢
  obtain ⟨rule, s, children, derived, leads, _⟩ := firstProof?_succ_eq_some here allowed
  exact ⟨⟨rule, s⟩, children, derived, leads⟩

/-- Within three levels two is proved to be even by the rule that leads to the same goal again, and
only then, with two levels left, by the rule that takes two off: the first of them no longer leads
to a proof there. Nine attempts are enough for that, and so for each part of it.
-/
theorem run_canonical_of_twoIsEven
    : let search := run Samples.even (some 9)
      let first depthBound := (Samples.even.toList.find?
        (leadsToProof Samples.even (some 9) depthBound twoIsEven)).map (fun rule => rule.name)
      first 2 = some "even_loop"
      ∧ first 1 = some "even_ss"
      ∧ ∃ tree node,
          (search (.unproved twoIsEven) 3).result = .ok tree
          ∧ node ∈ tree.nodesAt 1
          ∧ node.judgment.alphaEq twoIsEven = true
          ∧ (search (.unproved node.judgment) 2).result = .ok node := by
  intro search first
  have again : (search (.unproved twoIsEven) 3).result.toOption.any
      (fun tree => (tree.nodesAt 1).any (fun node => node.judgment.alphaEq twoIsEven)) = true := by
    decide
  obtain ⟨tree, found, stands⟩ := exists_of_any again
  obtain ⟨node, member, same⟩ := List.any_eq_true.mp stands
  obtain ⟨_, _, searched⟩ := run_canonical found 1 node member
  exact ⟨by decide, by decide, tree, node, found, member, same, searched⟩

end Search

end Backchain
