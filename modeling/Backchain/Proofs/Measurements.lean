import Mathlib.Data.List.Forall2
import Backchain.Proofs.FreeVariables
import Backchain.Term.Walk

/-! What can be measured of a term does not show the names of its binders. Sizes and heights are
taken by a walk with a stack of pending nodes, and free variables below a list of binders; all of
them come out alike for equal terms. So equal rules are built alike: they have the same unbound
variables, and one is grounded if the other is.
-/

namespace Backchain

namespace Term

/-- Every listed node is counted once, by induction along the walk. -/
theorem length_subtermsPending (pending : List Term)
    : (subtermsPending pending).length = weightAll pending := by
  fun_induction subtermsPending pending with
  | case1 => rfl
  | case2 node rest ih =>
      rw [List.length_cons, ih, weightAll_append, weightAll, weight_eq_children]
      omega

theorem size_eq_weight (t : Term) : t.size = t.weight := by
  rw [size, subterms, length_subtermsPending]
  rfl

mutual
/-- The number of nodes on the longest path from the root, counted along the structure. -/
def levels : Term → Nat
  | .var _ => 1
  | .app _ args => 1 + levelsAll args
  | .abs _ body => 1 + body.levels

/-- The greatest number of levels of the terms of a list. -/
def levelsAll : List Term → Nat
  | [] => 0
  | t :: rest => max t.levels (levelsAll rest)
end

theorem levels_eq_children (t : Term) : t.levels = 1 + levelsAll t.children := by
  cases t <;> simp [levels, levelsAll, children]

/-- One more than the greatest depth found below pending nodes, each with the depth it is at. -/
def reach : List (Term × Nat) → Nat
  | [] => 0
  | (node, depth) :: rest => max (depth + node.levels) (reach rest)

theorem reach_append (left right : List (Term × Nat))
    : reach (left ++ right) = max (reach left) (reach right) := by
  induction left with
  | nil => simp [reach]
  | cons entry rest ih => simp only [List.cons_append, reach, ih, Nat.max_assoc]

/-- Children that are all at one depth reach as far as the highest of them. -/
theorem max_reach_children (depth : Nat) (nodes : List Term)
    : max depth (reach (nodes.map (fun node => (node, depth)))) = depth + levelsAll nodes := by
  induction nodes with
  | nil => simp [reach, levelsAll]
  | cons node rest ih =>
      rw [List.map_cons, reach, levelsAll]
      omega

/-- The walk finds the greatest depth, by induction along the walk. -/
theorem walkPending_depth (pending : List (Term × Nat)) (highest : Nat)
    : walkPending (fun highest _ depth => (max highest depth, .children (depth + 1))) pending
          highest + 1
      = max (highest + 1) (reach pending) := by
  fun_induction walkPending (fun highest _ depth => (max highest depth, Visit.children (depth + 1)))
    pending highest with
  | case1 highest => simp [reach]
  | case2 highest node depth rest next told visited ih =>
      cases visited
      have below := max_reach_children (depth + 1) node.children
      rw [ih, reach_append, reach, levels_eq_children]
      omega
  | case3 highest node depth rest next visited => cases visited
  | case4 highest node depth rest next visited => cases visited

theorem height_eq_levels (t : Term) : t.height = t.levels := by
  have walked := walkPending_depth [(t, 1)] 0
  rw [reach, reach] at walked
  rw [height, walk]
  omega

/-- Terms of one nameless form have children of one nameless form each, below a binder more on both
sides if they are binders.
-/
theorem children_of_namelessIn_eq {t u : Term} {scope others : List Variable}
    (same : t.namelessIn scope = u.namelessIn others)
    : ∃ inner outer : List Variable,
        List.Forall₂ (fun child child' => child.namelessIn inner = child'.namelessIn outer)
          t.children u.children := by
  rcases namelessIn_eq_cases same with
    ⟨x, y, rfl, rfl⟩ | ⟨head, args, targets, rfl, rfl, forms⟩
      | ⟨x, body, y, target, rfl, rfl, forms⟩
  · exact ⟨scope, others, .nil⟩
  · rw [← List.forall₂_eq_eq_eq, List.forall₂_map_left_iff, List.forall₂_map_right_iff] at forms
    exact ⟨scope, others, forms⟩
  · exact ⟨x :: scope, y :: others, .cons forms .nil⟩

theorem measures_congr {ts us : List Term}
    (pairs : List.Forall₂ (fun t u => t.weight = u.weight ∧ t.levels = u.levels) ts us)
    : weightAll ts = weightAll us ∧ levelsAll ts = levelsAll us := by
  induction pairs with
  | nil => exact ⟨rfl, rfl⟩
  | cons first _ ih =>
      rw [weightAll, weightAll, levelsAll, levelsAll, first.1, first.2, ih.1, ih.2]
      exact ⟨rfl, rfl⟩

/-- Induction on terms by way of their children. -/
theorem children_induct {motive : Term → Prop}
    (step : ∀ t : Term, (∀ child ∈ t.children, motive child) → motive t)
    : ∀ t, motive t := by
  intro t
  induction t with
  | var x => exact step _ fun _ member => nomatch member
  | app head args ih => exact step _ ih
  | abs binder body ih => exact step _ fun child member => List.mem_singleton.mp member ▸ ih

/-- Terms of one nameless form have the same size and height, whatever binders they are below, by
induction on the first.
-/
theorem measures_of_namelessIn_eq {t u : Term} {scope others : List Variable}
    (same : t.namelessIn scope = u.namelessIn others)
    : t.weight = u.weight ∧ t.levels = u.levels := by
  induction t using children_induct generalizing u scope others with
  | step t ih =>
      obtain ⟨inner, outer, pairs⟩ := children_of_namelessIn_eq same
      have each : List.Forall₂ (fun child child' => child.weight = child'.weight
          ∧ child.levels = child'.levels) t.children u.children := by
        refine List.forall₂_iff_zip.mpr ⟨pairs.length_eq, fun {child child'} pair => ?_⟩
        exact ih child (List.of_mem_zip pair).1 (List.forall₂_zip pairs pair)
      obtain ⟨weights, levels⟩ := measures_congr each
      rw [t.weight_eq_children, u.weight_eq_children, t.levels_eq_children, u.levels_eq_children,
        weights, levels]
      exact ⟨rfl, rfl⟩

theorem size_of_alphaEq {t u : Term} (same : t.alphaEq u = true)
    : t.size = u.size ∧ t.height = u.height := by
  rw [t.size_eq_weight, u.size_eq_weight, t.height_eq_levels, u.height_eq_levels]
  exact measures_of_namelessIn_eq (alphaEq_iff.mp same)

theorem freeVars_of_alphaEq {t u : Term} (same : t.alphaEq u = true) : t.freeVars = u.freeVars :=
  VarSet.ext fun _ => mem_freeVars_of_alphaEq same

end Term

namespace Rule

theorem toRuleDraft_of_ofDraft {draft : RuleDraft} {rule : Rule}
    (built : ofDraft draft = .ok rule)
    : rule.toRuleDraft = draft := by
  unfold ofDraft at built
  split at built
  · cases built
  · split at built
    · cases built
    · cases built
      rfl

theorem alphaEq_iff {rule other : Rule}
    : rule.alphaEq other = true
      ↔ rule.name = other.name
        ∧ List.Forall₂ (Judgment.alphaEq · · = true) rule.premises other.premises
        ∧ rule.conclusion.alphaEq other.conclusion = true
        ∧ rule.grounded = other.grounded := by
  simp only [alphaEq, Bool.and_eq_true, decide_eq_true_eq, List.all_eq_true, Prod.forall,
    List.forall₂_iff_zip]
  constructor
  · intro same
    obtain ⟨⟨⟨⟨name, counted⟩, premises⟩, conclusion⟩, grounded⟩ := same
    exact ⟨name, ⟨counted, premises⟩, conclusion, grounded⟩
  · intro same
    obtain ⟨name, ⟨counted, premises⟩, conclusion, grounded⟩ := same
    exact ⟨⟨⟨⟨name, counted⟩, premises⟩, conclusion⟩, grounded⟩

end Rule

theorem Term.freeVarsAll_of_alphaEq {premises others : List Judgment}
    (pairs : List.Forall₂ (Judgment.alphaEq · · = true) premises others)
    : freeVarsAll (premises.map Judgment.term) = freeVarsAll (others.map Judgment.term) := by
  induction pairs with
  | nil => rfl
  | cons first _ ih =>
      have terms := (Judgment.alphaEq_iff.mp first).1
      rw [List.map_cons, List.map_cons, freeVarsAll, freeVarsAll, freeVars_of_alphaEq terms, ih]

/-- Drafts with equal premises and equal conclusions have the same unbound variables. -/
theorem RuleDraft.unboundVars_of_alphaEq {draft other : RuleDraft}
    (premises : List.Forall₂ (Judgment.alphaEq · · = true) draft.premises other.premises)
    (conclusion : draft.conclusion.alphaEq other.conclusion = true)
    : draft.unboundVars = other.unboundVars := by
  have concluded : draft.conclusion.freeVars = other.conclusion.freeVars :=
    Term.freeVars_of_alphaEq (Judgment.alphaEq_iff.mp conclusion).1
  rw [unboundVars, unboundVars, Term.freeVarsAll_of_alphaEq premises, concluded]

/-- Equal objects have equal measurements. Terms that differ in bound names only have the same free
variables, and so they are both closed or neither is; they have one size, one height, one head and
one number of arguments. Hence rules that are built from equal judgments under one name have the
same unbound variables, are both grounded or neither, and are equal as rules.
-/
theorem alphaEq_measures
    : (∀ t u : Term, t.alphaEq u = true
        → t.freeVars = u.freeVars
          ∧ t.isClosed = u.isClosed
          ∧ t.size = u.size
          ∧ t.height = u.height
          ∧ t.head? = u.head?
          ∧ t.args.length = u.args.length)
      ∧ ∀ (draft other : RuleDraft) (rule copy : Rule),
          Rule.ofDraft draft = .ok rule → Rule.ofDraft other = .ok copy
          → draft.name = other.name
          → List.Forall₂ (fun premise premise' => premise.alphaEq premise' = true)
              draft.premises other.premises
          → draft.conclusion.alphaEq other.conclusion = true
          → rule.grounded = copy.grounded
            ∧ rule.unboundVars = copy.unboundVars
            ∧ rule.alphaEq copy = true := by
  constructor
  · intro t u same
    have free := Term.freeVars_of_alphaEq same
    have closed : t.isClosed = u.isClosed := by rw [Term.isClosed, Term.isClosed, free]
    obtain ⟨sizes, heights⟩ := Term.size_of_alphaEq same
    obtain ⟨heads, counts⟩ := Term.shape_of_alphaEq same
    exact ⟨free, closed, sizes, heights, heads, counts⟩
  · intro draft other rule copy built rebuilt name premises conclusion
    have kept := Rule.toRuleDraft_of_ofDraft built
    have unbound : rule.unboundVars = copy.unboundVars := by
      rw [kept, Rule.toRuleDraft_of_ofDraft rebuilt]
      exact RuleDraft.unboundVars_of_alphaEq premises conclusion
    have grounded : rule.grounded = copy.grounded := by
      rw [rule.grounded_eq, copy.grounded_eq, unbound]
    refine ⟨grounded, unbound, Rule.alphaEq_iff.mpr ?_⟩
    rw [kept, Rule.toRuleDraft_of_ofDraft rebuilt]
    exact ⟨name, premises, conclusion, grounded⟩

/-- A function of a given variable, with the identity inside it under the same name. -/
def appliedToIdentity (x : Variable) : Term :=
  .abs x (.app "f" [.var x, .abs x (.var x), .var ⟨"g", 0⟩])

/-- A rule for such functions whose premise has a variable that its conclusion lacks. -/
def appliedDraft (x : Variable) : RuleDraft where
  name := "applied"
  premises := [⟨.app "total" [appliedToIdentity x], ⟨"total", 1⟩⟩]
  conclusion := ⟨.app "total" [.abs x (.var x)], ⟨"total", 1⟩⟩

/-- The binders are renamed to a namesake of the free variable, and the rule stays ungrounded. -/
theorem alphaEq_measures_of_appliedDraft
    : let x : Variable := ⟨"x", 0⟩
      let y : Variable := ⟨"g", 3⟩
      let t := appliedToIdentity x
      let u := appliedToIdentity y
      t.alphaEq u = true
        ∧ (t.freeVars = u.freeVars
          ∧ t.isClosed = u.isClosed
          ∧ t.size = u.size
          ∧ t.height = u.height
          ∧ t.head? = u.head?
          ∧ t.args.length = u.args.length)
        ∧ ∃ rule copy,
            Rule.ofDraft (appliedDraft x) = .ok rule
            ∧ Rule.ofDraft (appliedDraft y) = .ok copy
            ∧ rule.grounded = false
            ∧ rule.grounded = copy.grounded
            ∧ rule.unboundVars = copy.unboundVars
            ∧ rule.alphaEq copy = true := by
  intro x y t u
  have same : t.alphaEq u = true := by decide
  have premises : List.Forall₂ (fun premise premise' => premise.alphaEq premise' = true)
      (appliedDraft x).premises (appliedDraft y).premises := by decide
  have conclusion : (appliedDraft x).conclusion.alphaEq (appliedDraft y).conclusion = true := by
    decide
  refine ⟨same, alphaEq_measures.1 t u same, _, _, rfl, rfl, by decide, ?_⟩
  exact alphaEq_measures.2 (appliedDraft x) (appliedDraft y) _ _ rfl rfl rfl premises conclusion

end Backchain
