import Backchain.Proofs.AlphaInvariance

/-! The checker cannot tell equal proof trees apart. Equal trees may have other binders at every
node and other stored substitutions, and the checker matches each node anew. But what it finds
depends on the nodes up to bound names alone, so it comes to the same verdict, and to the same first
flaw.
-/

namespace Backchain

/-- Equal targets are matched alike, and what the variables of the pattern are bound to is equal. -/
theorem Term.match?_of_alphaEq (pattern : Term) {t u : Term} (same : t.alphaEq u = true)
    : (pattern.match? t = none ∧ pattern.match? u = none)
      ∨ ∃ s o, pattern.match? t = some s ∧ pattern.match? u = some o ∧ s.nameless = o.nameless := by
  cases matched : pattern.match? t with
  | none =>
      cases matched' : pattern.match? u with
      | none => exact Or.inl ⟨rfl, rfl⟩
      | some o =>
          have taken := alphaEq_trans (alphaEq_of_match? matched') (alphaEq_symm same)
          obtain ⟨s, found⟩ := exists_match? taken
          rw [matched] at found
          cases found
  | some s =>
      have taken := alphaEq_trans (alphaEq_of_match? matched) same
      obtain ⟨o, matched'⟩ := exists_match? taken
      have inside : ∀ x ∈ s.domain, x ∈ pattern.freeVars := by
        intro x bound
        exact mem_freeVars_of_match? matched bound
      exact Or.inr ⟨s, o, rfl, matched', (nameless_match?_eq matched' taken inside).symm⟩

namespace ProofTree

mutual
/-- The rules that are applied in a tree, in pre-order. -/
def appliedRules : ProofTree → List Rule
  | .unproved _ => []
  | .derived _ inst children => inst.rule :: appliedRulesAll children

/-- The rules that are applied in several trees, tree by tree. -/
def appliedRulesAll : List ProofTree → List Rule
  | [] => []
  | tree :: rest => tree.appliedRules ++ appliedRulesAll rest
end

/-- Every rule instance of a tree is one of a rule of the book. Rules that are equal up to bound
names count as one rule.
-/
def AppliesRulesOf (book : Rulebook) (tree : ProofTree) : Prop :=
  ∀ rule ∈ tree.appliedRules, ∃ declared ∈ book.toList, declared.alphaEq rule = true

instance (book : Rulebook) (tree : ProofTree) : Decidable (tree.AppliesRulesOf book) :=
  inferInstanceAs
    (Decidable (∀ rule ∈ tree.appliedRules, ∃ declared ∈ book.toList,
      declared.alphaEq rule = true))

theorem mem_appliedRulesAll {rule : Rule} {trees : List ProofTree}
    : rule ∈ appliedRulesAll trees ↔ ∃ tree ∈ trees, rule ∈ tree.appliedRules := by
  induction trees with
  | nil => simp [appliedRulesAll]
  | cons tree rest ih => simp [appliedRulesAll, ih]

theorem AppliesRulesOf.child {book : Rulebook} {goal : Judgment} {inst : RuleInstance}
    {children : List ProofTree} (known : (ProofTree.derived goal inst children).AppliesRulesOf book)
    {child : ProofTree} (member : child ∈ children)
    : child.AppliesRulesOf book := by
  intro rule applied
  have listed := mem_appliedRulesAll.mpr ⟨child, member, applied⟩
  exact known rule (List.mem_cons_of_mem _ listed)

/-- The rule of a node is found under its name. -/
theorem AppliesRulesOf.exists_get? {book : Rulebook} {goal : Judgment} {inst : RuleInstance}
    {children : List ProofTree} (known : (ProofTree.derived goal inst children).AppliesRulesOf book)
    : ∃ rule, book.get? inst.rule.name = some rule ∧ rule.alphaEq inst.rule = true := by
  obtain ⟨rule, declared, equal⟩ := known inst.rule List.mem_cons_self
  rw [← (Rule.alphaEq_iff.mp equal).1]
  exact ⟨rule, Rulebook.get?_of_mem declared, equal⟩

theorem judgment_of_alphaEq {tree other : ProofTree} (same : tree.alphaEq other = true)
    : tree.judgment.alphaEq other.judgment = true := by
  cases tree <;> cases other <;> simp_all [alphaEq, judgment]

/-- Equal subtrees are checked alike against equal premises, by induction on the premises. The first
premise that a subtree does not prove, and the first subtree that does not pass, are at one place.
-/
theorem sameVerdict_checkPremises {book : Rulebook} {rule : Symbol} (index : Nat)
    {premises others : List Judgment} {children children' : List ProofTree}
    (goals : List.Forall₂ (Judgment.alphaEq · · = true) premises others)
    (trees : List.Forall₂
      (fun child child' =>
        child.judgment.alphaEq child'.judgment = true
        ∧ CheckError.sameVerdict (child.check book) (child'.check book) = true)
      children children')
    : CheckError.sameVerdict (checkPremises book rule index premises children)
        (checkPremises book rule index others children') = true := by
  induction goals generalizing index children children' with
  | nil => cases trees <;> rfl
  | @cons premise other premises others first _ ih =>
      cases trees with
      | nil => rfl
      | @cons child child' children children' both rest =>
          obtain ⟨judged, verdicts⟩ := both
          rw [checkPremises, checkPremises]
          by_cases proves : premise.alphaEq child.judgment = true
          · have proves' : other.alphaEq child'.judgment = true :=
              Judgment.alphaEq_trans (Judgment.alphaEq_symm first)
                (Judgment.alphaEq_trans proves judged)
            rw [if_pos proves, if_pos proves']
            cases passed : child.check book <;> cases passed' : child'.check book
              <;> rw [passed, passed'] at verdicts
            · exact verdicts
            · cases verdicts
            · cases verdicts
            · exact ih (index + 1) rest
          · have unproved : ¬ other.alphaEq child'.judgment = true := by
              intro proves'
              exact proves (Judgment.alphaEq_trans first
                (Judgment.alphaEq_trans proves' (Judgment.alphaEq_symm judged)))
            rw [if_neg proves, if_neg unproved]
            simp [CheckError.sameVerdict, CheckError.alphaEq, first, judged]

/-- Equal nodes with the same rule are checked alike if their subtrees are. -/
theorem sameVerdict_derived {book : Rulebook} {goal target : Judgment} {inst inst' : RuleInstance}
    {children others : List ProofTree} {rule : Rule} (goals : goal.alphaEq target = true)
    (name : inst.rule.name = inst'.rule.name) (found : book.get? inst.rule.name = some rule)
    (equal : rule.alphaEq inst.rule = true) (equal' : rule.alphaEq inst'.rule = true)
    (trees : List.Forall₂
      (fun child other =>
        child.judgment.alphaEq other.judgment = true
        ∧ CheckError.sameVerdict (child.check book) (other.check book) = true)
      children others)
    : CheckError.sameVerdict ((ProofTree.derived goal inst children).check book)
        ((ProofTree.derived target inst' others).check book) = true := by
  obtain ⟨terms, families⟩ := Judgment.alphaEq_iff.mp goals
  have mismatch : CheckError.alphaEq
      (.conclusionMismatch inst'.rule.name rule.conclusion goal)
      (.conclusionMismatch inst'.rule.name rule.conclusion target) = true := by
    simp [CheckError.alphaEq, Judgment.alphaEq_refl, goals]
  have known : (book.get? inst.rule.name).filter (fun rule => rule.alphaEq inst.rule)
      = some rule :=
    Option.filter_eq_some_iff.mpr ⟨found, equal⟩
  have known' : (book.get? inst'.rule.name).filter (fun rule => rule.alphaEq inst'.rule)
      = some rule :=
    Option.filter_eq_some_iff.mpr ⟨name ▸ found, equal'⟩
  simp only [check, known, known']
  rw [name, families, trees.length_eq]
  by_cases family : rule.family = target.family
  · rw [if_neg (not_not.mpr family), if_neg (not_not.mpr family)]
    rcases rule.conclusion.term.match?_of_alphaEq terms with
      ⟨unmatched, unmatched'⟩ | ⟨s, o, matched, matched', values⟩
    · rw [unmatched, unmatched']
      exact mismatch
    · rw [matched, matched']
      by_cases counted : rule.premises.length = others.length
      · simp only [counted, ne_eq, not_true_eq_false, if_false]
        refine sameVerdict_checkPremises 0 ?_ trees
        rw [List.forall₂_map_left_iff, List.forall₂_map_right_iff, List.forall₂_same]
        intro premise _
        exact Substitution.alphaEq_instantiate values (Judgment.alphaEq_refl premise)
      · simp [counted, CheckError.sameVerdict, CheckError.alphaEq]
  · rw [if_pos family, if_pos family]
    exact mismatch

/-- Checking respects equality: two equal trees whose rule instances are all of rules of the book
both pass, or both fail for equal causes, by induction on the tree.
-/
theorem check_alphaEq {book : Rulebook} {tree other : ProofTree} (same : tree.alphaEq other = true)
    (known : tree.AppliesRulesOf book) (known' : other.AppliesRulesOf book)
    : CheckError.sameVerdict (tree.check book) (other.check book) = true := by
  induction tree generalizing other with
  | unproved goal =>
      cases other with
      | unproved target =>
          rw [alphaEq] at same
          rw [check, check]
          exact same
      | derived _ _ _ => cases same
  | derived goal inst children ih =>
      cases other with
      | unproved _ => cases same
      | derived target inst' others =>
          simp only [alphaEq, Bool.and_eq_true, decide_eq_true_eq, areAlphaEq_iff] at same
          obtain ⟨⟨goals, name⟩, trees⟩ := same
          obtain ⟨rule, found, equal⟩ := known.exists_get?
          obtain ⟨rule', found', equal'⟩ := known'.exists_get?
          -- one name leads to one rule, so both nodes are checked against the same rule
          rw [← name, found] at found'
          cases found'
          refine sameVerdict_derived goals name found equal equal' ?_
          refine List.forall₂_iff_zip.mpr ⟨trees.length_eq, fun {child child'} pair => ?_⟩
          obtain ⟨member, member'⟩ := List.of_mem_zip pair
          have alike := List.forall₂_zip trees pair
          exact ⟨judgment_of_alphaEq alike,
            ih child member alike (known.child member) (known'.child member')⟩

/-- The identities and their compositions, as total functions. -/
def totalFunctions : Rulebook := Rulebook.empty.declare (Search.totalDrafts ⟨"x", 0⟩)

/-- A tree that composes the identity with a function: the identity is written with a given
variable, a given substitution is stored, and the function is claimed to be an identity too.
-/
def identityAfter (x : Variable) (stored : Substitution) (function : Term) : ProofTree :=
  let rule (name : Symbol) (known : (totalFunctions.get? name).isSome) : Rule :=
    (totalFunctions.get? name).get known
  let identity : Term := .abs x (.var x)
  .derived (Search.isTotal (.app "compose" [identity, function]))
    ⟨rule "compose" (by decide), stored⟩
    [
      .derived (Search.isTotal identity) ⟨rule "identity" (by decide), stored⟩ [],
      .derived (Search.isTotal function) ⟨rule "identity" (by decide), .identity⟩ []
    ]

theorem check_alphaEq_of_identityAfter
    : let x : Variable := ⟨"x", 0⟩
      let g : Variable := ⟨"g", 3⟩
      let stored := Substitution.singleton ⟨"f", 0⟩ Samples.zero
      let sound := identityAfter x .identity (.abs x (.var x))
      let sound' := identityAfter g stored (.abs x (.var x))
      let flawed := identityAfter x .identity (.abs x Samples.zero)
      let flawed' := identityAfter g stored (.abs g Samples.zero)
      sound.alphaEq sound' = true
      ∧ (sound.AppliesRulesOf totalFunctions ∧ sound'.AppliesRulesOf totalFunctions)
      ∧ (sound.check totalFunctions).isOk = true
      ∧ CheckError.sameVerdict (sound.check totalFunctions) (sound'.check totalFunctions) = true
      ∧ flawed.alphaEq flawed' = true
      ∧ (flawed.AppliesRulesOf totalFunctions ∧ flawed'.AppliesRulesOf totalFunctions)
      ∧ (flawed.check totalFunctions).isOk = false
      ∧ CheckError.sameVerdict (flawed.check totalFunctions) (flawed'.check totalFunctions)
        = true := by
  intro x g stored sound sound' flawed flawed'
  have same : sound.alphaEq sound' = true := by decide
  have same' : flawed.alphaEq flawed' = true := by decide
  have known : sound.AppliesRulesOf totalFunctions ∧ sound'.AppliesRulesOf totalFunctions := by
    decide
  have known' : flawed.AppliesRulesOf totalFunctions ∧ flawed'.AppliesRulesOf totalFunctions := by
    decide
  exact ⟨same, known, by decide, check_alphaEq same known.1 known.2, same', known', by decide,
    check_alphaEq same' known'.1 known'.2⟩

end ProofTree

end Backchain
