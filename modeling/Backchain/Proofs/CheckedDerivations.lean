import Mathlib.Data.List.Forall2
import Backchain.Proofs.Derivations
import Backchain.ProofTree.Checker
import Backchain.Samples

/-! The checker accepts exactly the derivations. It finds a substitution of its own by matching,
which need not be the one stored in the tree. On a grounded rule the two give equal premises; on any
other rule the variables of the premises alone stay as they are.
-/

namespace Backchain

/-- A node follows by a rule of the book that equals the rule of its instance: some substitution of
variables of the rule's conclusion takes the conclusion to the node's term, and the premises to the
judgments of the subtrees, one for each premise. The stored substitution plays no part.
-/
def Rulebook.Licenses (book : Rulebook) (goal : Judgment) (inst : RuleInstance)
    (children : List ProofTree)
    : Prop :=
  ∃ rule ∈ book.toList,
    rule.name = inst.rule.name
    ∧ rule.alphaEq inst.rule = true
    ∧ goal.family = rule.family
    ∧ children.length = rule.premises.length
    ∧ ∃ s : Substitution,
        (∀ x ∈ s.domain, x ∈ rule.conclusion.freeVars)
        ∧ (s.apply rule.conclusion.term).alphaEq goal.term = true
        ∧ ∀ pair ∈ rule.premises.zip children,
            (pair.1.instantiate s).alphaEq pair.2.judgment = true

namespace ProofTree

/-- Subtrees pass if each proves its premise, up to bound names, and passes itself, by induction on
the premises.
-/
theorem checkPremises_eq_ok {book : Rulebook} {rule : Symbol} (index : Nat)
    {premises : List Judgment} {children : List ProofTree}
    (counted : premises.length = children.length)
    : checkPremises book rule index premises children = .ok ()
      ↔ List.Forall₂
          (fun premise child =>
            premise.alphaEq child.judgment = true ∧ child.check book = .ok ())
          premises children := by
  induction premises generalizing index children with
  | nil =>
      cases children with
      | nil => simp [checkPremises]
      | cons child children => simp at counted
  | cons premise premises ih =>
      cases children with
      | nil => simp at counted
      | cons child children =>
          rw [List.forall₂_cons, checkPremises]
          by_cases proves : premise.alphaEq child.judgment = true
          · rw [if_pos proves]
            cases passed : child.check book with
            | error flaw => simp
            | ok _ =>
                have rest := ih (index + 1) (Nat.succ.inj counted)
                simpa [proves] using rest
          · simp [proves]

/-- A node passes exactly when a rule of its rule's name is declared and equal to that rule, the
rule's conclusion matches the node, and the subtrees pass for the premises so instantiated.
-/
theorem check_derived_eq_ok {book : Rulebook} {goal : Judgment} {inst : RuleInstance}
    {children : List ProofTree}
    : (ProofTree.derived goal inst children).check book = .ok ()
      ↔ ∃ rule s,
          book.get? inst.rule.name = some rule
          ∧ rule.alphaEq inst.rule = true
          ∧ rule.family = goal.family
          ∧ rule.conclusion.term.match? goal.term = some s
          ∧ List.Forall₂
              (fun premise child =>
                (premise.instantiate s).alphaEq child.judgment = true
                ∧ child.check book = .ok ())
              rule.premises children := by
  constructor
  · intro passed
    rw [check] at passed
    split at passed
    · cases passed
    · rename_i rule found
      obtain ⟨known, equal⟩ := Option.filter_eq_some_iff.mp found
      split at passed
      · cases passed
      · rename_i family
        split at passed
        · cases passed
        · rename_i s matched
          split at passed
          · cases passed
          · rename_i counted
            have each := (checkPremises_eq_ok 0 (by simpa using counted)).mp passed
            exact ⟨rule, s, known, equal, Decidable.not_not.mp family, matched,
              List.forall₂_map_left_iff.mp each⟩
  · rintro ⟨rule, s, known, equal, family, matched, each⟩
    have found : (book.get? inst.rule.name).filter (fun rule => rule.alphaEq inst.rule)
        = some rule :=
      Option.filter_eq_some_iff.mpr ⟨known, equal⟩
    have counted := each.length_eq
    simp only [check, found, family, matched, counted, ne_eq, not_true_eq_false, if_false]
    exact (checkPremises_eq_ok 0 (by simpa using counted)).mpr (List.forall₂_map_left_iff.mpr each)

/-- Every derivation passes the checker, by induction on the tree. -/
theorem Throughout.check_eq_ok {book : Rulebook} {tree : ProofTree}
    (each : tree.Throughout book.Justifies)
    : tree.check book = .ok () := by
  induction each with
  | @derived goal inst children here _ ih =>
      obtain ⟨same, family⟩ := Judgment.alphaEq_iff.mp here.conclusion
      obtain ⟨found, matched⟩ := Term.exists_match? same
      refine check_derived_eq_ok.mpr
        ⟨inst.rule, found, Rulebook.get?_of_mem here.declared, inst.rule.alphaEq_refl, family,
          matched, ?_⟩
      have judged : List.Forall₂
          (fun premise child => premise.instantiate inst.substitution = ProofTree.judgment child)
          inst.rule.premises children := by
        rw [← List.forall₂_map_right_iff, ← List.forall₂_map_left_iff, List.forall₂_eq_eq_eq]
        exact here.premises
      refine List.forall₂_iff_zip.mpr ⟨judged.length_eq, fun {premise child} pair => ?_⟩
      obtain ⟨premised, among⟩ := List.of_mem_zip pair
      have equal := inst.rule.alphaEq_instantiate_of_match? here.grounded matched same premised
      rw [List.forall₂_zip judged pair] at equal
      exact ⟨equal, ih child among⟩

/-- A node passes exactly when it is licensed and its subtrees pass. A substitution that licenses it
stands for the same terms as the one the checker finds, since neither binds another variable than
those of the conclusion.
-/
theorem check_derived_iff_licenses {book : Rulebook} {goal : Judgment} {inst : RuleInstance}
    {children : List ProofTree}
    : (ProofTree.derived goal inst children).check book = .ok ()
      ↔ book.Licenses goal inst children ∧ ∀ child ∈ children, child.check book = .ok () := by
  rw [check_derived_eq_ok]
  constructor
  · intro passed
    obtain ⟨rule, s, known, equal, family, matched, each⟩ := passed
    obtain ⟨declared, name⟩ := Rulebook.get?_eq_some_iff.mp known
    have premises : ∀ pair ∈ rule.premises.zip children,
        (pair.1.instantiate s).alphaEq pair.2.judgment = true := by
      intro pair member
      exact (List.forall₂_zip each member).1
    have below : ∀ child ∈ children, child.check book = .ok () := by
      have swapped := (List.Forall₂.flip each).imp fun _ _ both => And.symm both
      exact ((List.forall₂_and_left _ _).mp swapped).1
    refine ⟨⟨rule, declared, name, equal, family.symm, each.length_eq.symm, s, ?_, ?_, premises⟩,
      below⟩
    · intro x bound
      exact Term.mem_freeVars_of_match? matched bound
    · exact Term.alphaEq_of_match? matched
  · intro licensed
    obtain ⟨⟨rule, declared, name, equal, family, counted, s, inside, same, premises⟩, below⟩ :=
      licensed
    obtain ⟨found, matched⟩ := Term.exists_match? same
    have values : found.nameless = s.nameless := Term.nameless_match?_eq matched same inside
    have known := Rulebook.get?_eq_some_iff.mpr ⟨declared, name⟩
    refine ⟨rule, found, known, equal, family.symm, matched, ?_⟩
    refine List.forall₂_iff_zip.mpr ⟨counted.symm, fun {premise child} pair => ⟨?_, ?_⟩⟩
    · have instantiated : (premise.instantiate found).alphaEq (premise.instantiate s) = true :=
        Substitution.alphaEq_instantiate values (Judgment.alphaEq_refl premise)
      exact Judgment.alphaEq_trans instantiated (premises _ pair)
    · exact below child (List.of_mem_zip pair).2

/-- The checker accepts exactly the trees without unproved nodes in which every node is licensed, by
induction on the tree.
-/
theorem check_eq_ok_iff {book : Rulebook} {tree : ProofTree}
    : tree.check book = .ok () ↔ tree.Throughout book.Licenses := by
  induction tree with
  | unproved goal =>
      constructor
      · intro passed
        rw [check] at passed
        cases passed
      · intro each
        cases each
  | derived goal inst children ih =>
      rw [check_derived_iff_licenses]
      constructor
      · intro accepted
        obtain ⟨here, below⟩ := accepted
        exact .derived here fun child member => (ih child member).mp (below child member)
      · intro each
        cases each with
        | derived here below =>
            exact ⟨here, fun child member => (ih child member).mpr (below child member)⟩

-- the middle term of transitivity is a variable of the premises alone: no stored binding fixes it
example
    : let transitivity := (Samples.order.get? "le_trans").get (by decide)
      let reflexivity := (Samples.order.get? "le_refl").get (by decide)
      let via (t : Term) : ProofTree :=
        let leaf : ProofTree := .derived (Samples.le t t) ⟨reflexivity, .identity⟩ []
        let stored := Substitution.ofList [(⟨"a", 0⟩, t), (⟨"b", 0⟩, t), (⟨"c", 0⟩, t)]
        .derived (Samples.le t t) ⟨transitivity, stored⟩ [leaf, leaf]
      ((via (Samples.v "b")).check Samples.order).isOk = true
        ∧ ((via Samples.zero).check Samples.order).isOk = false := by
  decide

end ProofTree

end Backchain
