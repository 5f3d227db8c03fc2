import Mathlib.Tactic.Ring
import Backchain.Proofs.FirstProof

/-! The sample rulebooks decide what they are about. A sum takes one rule application for each
successor of its first number, whatever the other terms are, and one more at the end. Evenness is
searched past a rule that leads from a goal to itself: it is applied again as long as the levels
left are more than the number needs, so the first proof fills the depth bound. It takes up to twice
the attempts with each further level, and a prover that cannot count so far gives up.
-/

namespace Backchain

-----------------------------------------------------------------------------------------
-- Trees without branches
-----------------------------------------------------------------------------------------

namespace ProofTree

/-- A complete tree without branches that applies rules of the given names, from the root on. -/
inductive Chain : List Symbol → ProofTree → Prop
  | last (goal : Judgment) (inst : RuleInstance) : Chain [inst.rule.name] (.derived goal inst [])
  | next (goal : Judgment) (inst : RuleInstance) {names : List Symbol} {child : ProofTree}
    (below : Chain names child)
    : Chain (inst.rule.name :: names) (.derived goal inst [child])

namespace Chain

variable {names : List Symbol} {tree : ProofTree}

theorem ruleNames_eq (chain : tree.Chain names) : tree.ruleNames = names := by
  induction chain with
  | last goal inst => simp [ruleNames, ruleNamesPending]
  | next goal inst _ ih =>
      rw [ruleNames, ruleNamesPending]
      exact congrArg (inst.rule.name :: ·) ih

theorem size_eq (chain : tree.Chain names) : tree.size = names.length := by
  induction chain with
  | last goal inst => rfl
  | next goal inst _ ih => simp [size, totalSize, ih, Nat.add_comm]

theorem height_eq (chain : tree.Chain names) : tree.height = names.length := by
  induction chain with
  | last goal inst => rfl
  | next goal inst _ ih => simp [height, greatestHeight, ih, Nat.add_comm]

end Chain

/-- An answer is a chain of the given rules if something holds, and there is none otherwise. -/
def ChainIff (holds : Prop) (names : List Symbol) : Option ProofTree → Prop
  | some tree => holds ∧ tree.Chain names
  | none => ¬ holds

theorem ChainIff.congr {holds other : Prop} {names names' : List Symbol}
    {answer : Option ProofTree} (exactly : ChainIff holds names answer) (same : holds ↔ other)
    (listed : other → names = names')
    : ChainIff other names' answer := by
  cases answer with
  | some tree =>
      have held := same.mp exactly.1
      exact ⟨held, listed held ▸ exactly.2⟩
  | none => exact fun held => exactly (same.mpr held)

/-- A rule applied to an answer is an answer under the same condition. -/
theorem ChainIff.next {holds : Prop} {names : List Symbol} {answer : Option ProofTree}
    (exactly : ChainIff holds names answer) (goal : Judgment) (inst : RuleInstance)
    : ChainIff holds (inst.rule.name :: names)
        (answer.map (fun child => .derived goal inst [child])) := by
  cases answer with
  | some tree => exact ⟨exactly.1, .next goal inst exactly.2⟩
  | none => exact exactly

end ProofTree

namespace Rule

variable {rule : Rule} {prove : Judgment → Option ProofTree} {goal : Judgment} {s : Substitution}

theorem proof?_of_mismatch (mismatch : rule.conclusion.term.match? goal.term = none)
    : rule.proof? prove goal = none := by
  simp [proof?, mismatch]

/-- A rule without premises gives a proof of every goal that it matches. -/
theorem proof?_of_axiom (grounded : rule.grounded = true)
    (matched : rule.conclusion.term.match? goal.term = some s) (premises : rule.premises = [])
    : rule.proof? prove goal = some (.derived goal ⟨rule, s⟩ []) := by
  simp [proof?, grounded, matched, RuleInstance.premises, premises]

/-- A rule with one premise gives a proof of a goal that it matches if there is one of the premise.
-/
theorem proof?_of_premise (grounded : rule.grounded = true)
    (matched : rule.conclusion.term.match? goal.term = some s) {premise instantiated : Judgment}
    (premises : rule.premises = [premise]) (becomes : premise.instantiate s = instantiated)
    : rule.proof? prove goal
      = (prove instantiated).map (fun child => .derived goal ⟨rule, s⟩ [child]) := by
  have listed : (RuleInstance.mk rule s).premises = [instantiated] := by
    simp [RuleInstance.premises, premises, becomes]
  rw [proof?, if_pos grounded, matched, Option.bind_some, listed, List.mapM_cons]
  cases prove instantiated <;> rfl

variable {cost : Judgment → Nat}

theorem cost_of_mismatch (grounded : rule.grounded = true)
    (mismatch : rule.conclusion.term.match? goal.term = none)
    : rule.cost prove cost goal = 1 := by
  simp [Rule.cost, grounded, mismatch]

/-- A rule without premises takes one attempt, whether it matches or not. -/
theorem cost_of_axiom (grounded : rule.grounded = true) (premises : rule.premises = [])
    : rule.cost prove cost goal = 1 := by
  cases matched : rule.conclusion.term.match? goal.term with
  | none => exact cost_of_mismatch grounded matched
  | some s => simp [Rule.cost, grounded, matched, RuleInstance.premises, premises, Judgment.costs]

/-- A rule with one premise takes an attempt and those of its premise if it matches. -/
theorem cost_of_premise (grounded : rule.grounded = true)
    (matched : rule.conclusion.term.match? goal.term = some s) {premise instantiated : Judgment}
    (premises : rule.premises = [premise]) (becomes : premise.instantiate s = instantiated)
    : rule.cost prove cost goal = 1 + cost instantiated := by
  simp [Rule.cost, grounded, matched, RuleInstance.premises, premises, becomes, Judgment.costs]

theorem costs_cons_le (rest : List Rule)
    : costs prove cost goal (rule :: rest)
      ≤ rule.cost prove cost goal + costs prove cost goal rest := by
  rw [costs]
  split <;> omega

end Rule

namespace Rulebook

variable {book : Rulebook} {goal : Judgment} {rules : List Rule}
  (candidates : book.candidates goal.family = rules) (levels : Nat)

include candidates

theorem firstProof?_of_candidates
    : book.firstProof? (levels + 1) goal
      = rules.findSome? (Rule.proof? (book.firstProof? levels) goal) := by
  rw [firstProof?, candidates]

theorem cost_of_candidates
    : book.cost (levels + 1) goal
      = Rule.costs (book.firstProof? levels) (book.cost levels) goal rules := by
  rw [Rulebook.cost, candidates]

end Rulebook

namespace Samples

-----------------------------------------------------------------------------------------
-- Addition
-----------------------------------------------------------------------------------------

/-- The rule for a sum of zero. -/
def plusZero : Rule := (addition.get? "plus_z").get (by decide)

/-- The rule for a sum of a successor. -/
def plusSucc : Rule := (addition.get? "plus_s").get (by decide)

theorem candidates_plus (a b c : Term)
    : addition.candidates (plus a b c).family = [plusZero, plusSucc] := by
  have family : addition.candidates ⟨"plus", 3⟩ = [plusZero, plusSucc] := rfl
  exact family

/-- The two places of one variable in the rule for zero take equal terms only. -/
theorem match?_plusZero (t u : Term)
    : plusZero.conclusion.term.match? (plus zero t u).term
      = if t.alphaEq u then some (.ofList [(⟨"n", 0⟩, t)]) else none := by
  have compared : plusZero.conclusion.term.match? (plus zero t u).term
      = ((if t.alphaEq u then some (VarMap.empty.insert ⟨"n", 0⟩ t) else none).bind
          (Term.matchAll [] [] [])).map (fun found => Substitution.ofList found.entries) :=
    rfl
  rw [compared]
  split <;> rfl

/-- Zero and a term add up to exactly the terms equal to that term. -/
theorem chainIff_plus_zero (levels : Nat) (t u : Term)
    : ProofTree.ChainIff (t.alphaEq u = true) ["plus_z"]
        (addition.firstProof? (levels + 1) (plus zero t u)) := by
  have apart : plusSucc.conclusion.term.match? (plus zero t u).term = none := rfl
  rw [Rulebook.firstProof?_of_candidates (candidates_plus zero t u), List.findSome?_cons]
  by_cases same : t.alphaEq u = true
  · have matched := match?_plusZero t u
    rw [if_pos same] at matched
    rw [Rule.proof?_of_axiom rfl matched rfl]
    exact ⟨same, .last (plus zero t u) ⟨plusZero, _⟩⟩
  · have mismatch := match?_plusZero t u
    rw [if_neg same] at mismatch
    rw [Rule.proof?_of_mismatch mismatch, List.findSome?_singleton,
      Rule.proof?_of_mismatch apart]
    exact same

/-- The bindings of the rule for a successor. -/
def plusBindings (x t u : Term) : VarMap Term :=
  ((VarMap.empty.insert ⟨"m", 0⟩ x).insert ⟨"n", 0⟩ t).insert ⟨"k", 0⟩ u

/-- The premise of the rule for a successor, whatever variables the terms bound to its own mention.
-/
theorem instantiate_plus (x t u : Term)
    : (plus (v "m") (v "n") (v "k")).instantiate (.ofList (plusBindings x t u).entries)
      = plus x t u := by
  have parts (s : Substitution)
      : (plus (v "m") (v "n") (v "k")).instantiate s
        = plus (s.apply (v "m")) (s.apply (v "n")) (s.apply (v "k")) :=
    rfl
  rw [parts, v, v, v]
  simp only [Substitution.apply_ofList_entries_var]
  rfl

/-- A sum of a successor is led back to the sum of its predecessor. -/
theorem chainIff_plus_succ {holds : Prop} {names : List Symbol} {levels : Nat} {x t u : Term}
    (below : ProofTree.ChainIff holds names (addition.firstProof? levels (plus x t u)))
    : ProofTree.ChainIff holds ("plus_s" :: names)
        (addition.firstProof? (levels + 1) (plus (succ x) t (succ u))) := by
  have apart : plusZero.conclusion.term.match? (plus (succ x) t (succ u)).term = none := rfl
  have matched : plusSucc.conclusion.term.match? (plus (succ x) t (succ u)).term
      = some (.ofList (plusBindings x t u).entries) :=
    rfl
  rw [Rulebook.firstProof?_of_candidates (candidates_plus (succ x) t (succ u)),
    List.findSome?_cons, Rule.proof?_of_mismatch apart, List.findSome?_singleton,
    Rule.proof?_of_premise rfl matched rfl (instantiate_plus x t u)]
  exact below.next (plus (succ x) t (succ u)) ⟨plusSucc, _⟩

/-- A term equals a successor exactly when it is the successor of an equal term. -/
theorem alphaEq_succ_iff {t u : Term}
    : u.alphaEq (succ t) = true ↔ ∃ w, u = succ w ∧ w.alphaEq t = true := by
  constructor
  · intro same
    cases u with
    | var x => cases same
    | abs binder body => cases same
    | app head args =>
        rcases args with _ | ⟨w, _ | ⟨second, rest⟩⟩
        · simp [Term.alphaEq, Term.alphaEqIn, Term.alphaEqAll, succ] at same
        · simp only [Term.alphaEq, Term.alphaEqIn, Term.alphaEqAll, succ, Bool.and_eq_true,
            decide_eq_true_eq, Bool.and_true] at same
          exact ⟨w, by rw [same.1]; rfl, same.2⟩
        · simp [Term.alphaEq, Term.alphaEqIn, Term.alphaEqAll, succ] at same
  · rintro ⟨w, rfl, same⟩
    simpa [Term.alphaEq, Term.alphaEqIn, Term.alphaEqAll, succ] using same

/-- The rule for a successor matches no sum that is not a successor. -/
theorem match?_plusSucc_other (x t : Term) {u : Term} (apart : ∀ w, u ≠ succ w)
    : plusSucc.conclusion.term.match? (plus (succ x) t u).term = none := by
  cases matched : plusSucc.conclusion.term.match? (plus (succ x) t u).term with
  | none => rfl
  | some s =>
      -- the instance of the conclusion has a successor in the last place
      have same : (Term.app "plus"
          [succ (s.apply (v "m")), s.apply (v "n"), succ (s.apply (v "k"))]).alphaEq
          (plus (succ x) t u).term = true :=
        Term.alphaEq_of_match? matched
      simp only [plus, Term.alphaEq, Term.alphaEqIn, Term.alphaEqAll, Bool.and_eq_true] at same
      obtain ⟨w, successor, _⟩ := alphaEq_succ_iff.mp (Term.alphaEq_symm same.2.2.2.1)
      exact absurd successor (apart w)

/-- A sum of a successor is nothing but a successor. -/
theorem firstProof?_plus_other (levels : Nat) (x t : Term) {u : Term} (apart : ∀ w, u ≠ succ w)
    : addition.firstProof? (levels + 1) (plus (succ x) t u) = none := by
  have mismatch : plusZero.conclusion.term.match? (plus (succ x) t u).term = none := rfl
  rw [Rulebook.firstProof?_of_candidates (candidates_plus (succ x) t u), List.findSome?_cons,
    Rule.proof?_of_mismatch mismatch, List.findSome?_singleton,
    Rule.proof?_of_mismatch (match?_plusSucc_other x t apart)]

/-- A sum of a number is proved by one application of the rule for a successor for each successor of
the number, and only if the levels reach so far and the third term is the second under as many
successors, by induction on the number.
-/
theorem chainIff_plus (a levels : Nat) (t u : Term)
    : ProofTree.ChainIff (a < levels ∧ u.alphaEq (Term.iterate "s" t a) = true)
        (List.replicate a "plus_s" ++ ["plus_z"])
        (addition.firstProof? levels (plus (numeral a) t u)) := by
  induction a generalizing levels u with
  | zero =>
      cases levels with
      | zero => exact fun within => Nat.not_lt_zero 0 within.1
      | succ levels =>
          refine (chainIff_plus_zero levels t u).congr ?_ fun _ => rfl
          exact ⟨fun same => ⟨Nat.succ_pos levels, Term.alphaEq_symm same⟩,
            fun both => Term.alphaEq_symm both.2⟩
  | succ a ih =>
      cases levels with
      | zero => exact fun within => Nat.not_lt_zero _ within.1
      | succ levels =>
          by_cases successor : ∃ w, u = succ w
          · obtain ⟨w, rfl⟩ := successor
            refine (chainIff_plus_succ (ih levels w)).congr ?_ fun _ => rfl
            refine and_congr Nat.succ_lt_succ_iff.symm ?_
            rw [Term.iterate, ← succ, alphaEq_succ_iff]
            simp [succ]
          · have apart : ∀ w, u ≠ succ w := fun w same => successor ⟨w, same⟩
            have unproved : addition.firstProof? (levels + 1) (plus (numeral (a + 1)) t u) = none :=
              firstProof?_plus_other levels (numeral a) t apart
            rw [unproved]
            rintro ⟨_, same⟩
            obtain ⟨w, equal, _⟩ := alphaEq_succ_iff.mp same
            exact apart w equal

/-- A sum takes one attempt for the rule for zero and those of the rule for a successor. -/
theorem cost_plus_succ_le (levels : Nat) (x t u : Term)
    : addition.cost (levels + 1) (plus x t u)
      ≤ 1 + plusSucc.cost (addition.firstProof? levels) (addition.cost levels) (plus x t u) := by
  rw [Rulebook.cost_of_candidates (candidates_plus x t u)]
  refine Nat.le_trans (Rule.costs_cons_le _) ?_
  rw [Rule.cost_of_axiom rfl rfl]
  exact Nat.add_le_add_left (Rule.costs_cons_le []) 1

/-- A sum of a number takes at most two attempts for each of its successors and two at the end, by
induction on the number.
-/
theorem cost_plus_le (a levels : Nat) (t u : Term)
    : addition.cost levels (plus (numeral a) t u) ≤ 2 * (a + 1) := by
  induction a generalizing levels u with
  | zero =>
      cases levels with
      | zero => exact Nat.zero_le _
      | succ levels =>
          have apart : plusSucc.conclusion.term.match? (plus (numeral 0) t u).term = none := rfl
          have tried := cost_plus_succ_le levels (numeral 0) t u
          rw [Rule.cost_of_mismatch rfl apart] at tried
          exact tried
  | succ a ih =>
      cases levels with
      | zero => exact Nat.zero_le _
      | succ levels =>
          have tried := cost_plus_succ_le levels (numeral (a + 1)) t u
          by_cases successor : ∃ w, u = succ w
          · obtain ⟨w, rfl⟩ := successor
            have matched
                : plusSucc.conclusion.term.match? (plus (numeral (a + 1)) t (succ w)).term
                  = some (.ofList (plusBindings (numeral a) t w).entries) :=
              rfl
            rw [Rule.cost_of_premise rfl matched rfl (instantiate_plus (numeral a) t w)] at tried
            have below := ih levels w
            omega
          · have mismatch := match?_plusSucc_other (numeral a) t fun w same => successor ⟨w, same⟩
            have counted : plusSucc.cost (addition.firstProof? levels) (addition.cost levels)
                (plus (numeral (a + 1)) t u) = 1 :=
              Rule.cost_of_mismatch rfl mismatch
            omega

-----------------------------------------------------------------------------------------
-- Even numbers
-----------------------------------------------------------------------------------------

section

variable {levels : Nat} {names : List Symbol}

end

end Samples

-----------------------------------------------------------------------------------------
-- Searches
-----------------------------------------------------------------------------------------

namespace Search

/-- A search without a budget succeeds exactly when there is a first proof, and returns it. -/
theorem run_of_chainIff {book : Rulebook} {goal : Judgment} {depthBound : Nat} {holds : Prop}
    {names : List Symbol} (valid : goal.Valid)
    (exactly : ProofTree.ChainIff holds names (book.firstProof? depthBound goal))
    : let run := run book none (.unproved goal) depthBound
      (run.result.isOk = true ↔ holds) ∧ ∀ tree, run.result = .ok tree → tree.Chain names := by
  intro run
  cases first : book.firstProof? depthBound goal with
  | some tree =>
      rw [first] at exactly
      have found : run.result = .ok tree := run_none_eq_ok_iff.mpr ⟨valid, first⟩
      rw [found]
      refine ⟨iff_of_true rfl exactly.1, ?_⟩
      rintro other ⟨⟩
      exact exactly.2
  | none =>
      rw [first] at exactly
      have unproved (tree : ProofTree) : run.result ≠ .ok tree := by
        intro found
        rw [(run_none_eq_ok_iff.mp found).2] at first
        cases first
      refine ⟨iff_of_false ?_ exactly, fun tree found => absurd found (unproved tree)⟩
      intro succeeds
      obtain ⟨tree, found⟩ := exists_of_isOk succeeds
      exact unproved tree found

/-- Addition is decided: the search for a proof that a number and a term add up to another term
succeeds exactly when the depth bound is above the number and the other term is, up to bound names,
the term under as many successors. The proof then takes one successor off at a time. Two attempts
for each successor and two more are enough, so every limit that allows for them gives the same run.
-/
theorem run_addition (a : Nat) (t u : Term) (depthBound : Nat)
    : let goal := Samples.plus (Samples.numeral a) t u
      let run := run Samples.addition none (.unproved goal) depthBound
      (run.result.isOk = true ↔ a < depthBound ∧ u.alphaEq (Term.iterate "s" t a) = true)
      ∧ (∀ tree, run.result = .ok tree
        → tree.ruleNames = List.replicate a "plus_s" ++ ["plus_z"]
          ∧ tree.size = a + 1
          ∧ tree.height = a + 1)
      ∧ run.stats.attempts ≤ 2 * (a + 1)
      ∧ ∀ limit, 2 * (a + 1) ≤ limit
        → Search.run Samples.addition (some limit) (.unproved goal) depthBound = run := by
  intro goal run
  have valid : goal.Valid := rfl
  have cheap := Samples.cost_plus_le a depthBound t u
  obtain ⟨decided, chains⟩ := run_of_chainIff valid (Samples.chainIff_plus a depthBound t u)
  refine ⟨decided, fun tree found => ?_, ?_, fun limit enough => ?_⟩
  · have chain := chains tree found
    have length : (List.replicate a "plus_s" ++ ["plus_z"]).length = a + 1 := by simp
    exact ⟨chain.ruleNames_eq, chain.size_eq.trans length, chain.height_eq.trans length⟩
  · rw [attempts_run_none valid]
    exact cheap
  · refine run_eq_run_none valid ?_
    rintro _ ⟨⟩
    exact Nat.le_trans cheap enough

theorem run_addition_of_ownVariables
    : let function (x : Symbol) : Term := .abs ⟨x, 0⟩ (.app "pair" [Samples.v x, Samples.v "n"])
      let sum := Samples.succ (Samples.succ (function "k"))
      let search := run Samples.addition none
        (.unproved (Samples.plus (Samples.numeral 2) (function "m") sum))
      (search 2).result.isOk = false
      ∧ ∃ tree,
          (search 3).result = .ok tree
          ∧ tree.ruleNames = ["plus_s", "plus_s", "plus_z"]
          ∧ tree.size = 3
          ∧ tree.height = 3 := by
  intro function sum search
  have decided (depthBound : Nat) := run_addition 2 (function "m") sum depthBound
  have equal : sum.alphaEq (Term.iterate "s" (function "m") 2) = true := by decide
  obtain ⟨tree, found⟩ := exists_of_isOk ((decided 3).1.mpr ⟨by decide, equal⟩)
  refine ⟨?_, tree, found, (decided 3).2.1 tree found⟩
  rw [Bool.eq_false_iff]
  intro succeeds
  exact absurd ((decided 2).1.mp succeeds).1 (Nat.lt_irrefl 2)

end Search

namespace Prover

end Prover

end Backchain
