import Backchain.Proofs.Declarations
import Backchain.Proofs.FreeVariables
import Backchain.Proofs.Instantiation
import Backchain.Proofs.SearchSimulation

/-! The variables of a rule are local names. Renaming them, for each rule in its own way, changes
nothing that a search does, even where the new names are those of the goal's variables or of binders
of the rule. A solution for the renamed rule gives one for the rule by composition, and the other
way round each new name stands for what the variable renamed to it stood for.
-/

namespace Backchain

namespace Substitution

/-- The variable that a variable is renamed to, if it is taken to one. -/
def rename? (s : Substitution) (x : Variable) : Option Variable :=
  match s.apply (.var x) with
  | .var y => some y
  | _ => none

theorem rename?_eq_some_iff {s : Substitution} {x y : Variable}
    : s.rename? x = some y ↔ s.apply (.var x) = .var y := by
  unfold rename?
  cases s.apply (.var x) <;> simp

/-- A substitution takes some variables to variables, and different ones to different ones. -/
structure Renames (s : Substitution) (vars : VarSet) : Prop where
  renamed : ∀ x ∈ vars, (s.rename? x).isSome = true
  injective : ∀ x ∈ vars, ∀ y ∈ vars, s.rename? x = s.rename? y → x = y

instance (s : Substitution) (vars : VarSet) : Decidable (s.Renames vars) :=
  decidable_of_iff
    ((∀ x ∈ vars.toList, (s.rename? x).isSome = true)
      ∧ ∀ x ∈ vars.toList, ∀ y ∈ vars.toList, s.rename? x = s.rename? y → x = y)
    (by
      simp only [VarSet.mem_toList]
      exact ⟨fun both => ⟨both.1, both.2⟩, fun renames => ⟨renames.renamed, renames.injective⟩⟩)

namespace Renames

variable {r : Substitution} {vars : VarSet} (renames : r.Renames vars)

include renames

theorem exists_var {x : Variable} (hx : x ∈ vars) : ∃ y, r.apply (.var x) = .var y := by
  obtain ⟨y, image⟩ := Option.isSome_iff_exists.mp (renames.renamed x hx)
  exact ⟨y, rename?_eq_some_iff.mp image⟩

theorem eq_of_apply_var {x x' y : Variable} (hx : x ∈ vars) (hx' : x' ∈ vars)
    (image : r.apply (.var x) = .var y) (image' : r.apply (.var x') = .var y)
    : x = x' := by
  refine renames.injective x hx x' hx' ?_
  rw [rename?_eq_some_iff.mpr image, rename?_eq_some_iff.mpr image']

/-- What a substitution has for the variables can be put in for their new names. -/
theorem exists_inverse (s : Substitution)
    : ∃ value : Variable → Nameless,
        (∀ y, (value y).ClosedAt 0) ∧ ∀ x ∈ vars, (r.nameless x).subst value = s.nameless x := by
  classical
  let value (y : Variable) : Nameless :=
    if known : ∃ x ∈ vars, r.apply (.var x) = .var y then s.nameless known.choose else .free y
  refine ⟨value, fun y => ?_, fun x hx => ?_⟩
  · by_cases known : ∃ x ∈ vars, r.apply (.var x) = .var y
    · simp only [value, dif_pos known]
      exact s.closedAt_nameless known.choose
    · simp only [value, dif_neg known]
      exact Term.closedAt_nameless (.var y)
  · obtain ⟨y, image⟩ := renames.exists_var hx
    have known : ∃ x ∈ vars, r.apply (.var x) = .var y := ⟨x, hx, image⟩
    have chosen := renames.eq_of_apply_var known.choose_spec.1 hx known.choose_spec.2 image
    have named : r.nameless x = .free y := by
      rw [← nameless_apply_var, image]
      rfl
    rw [named, Nameless.subst]
    simp only [value, dif_pos known, chosen]

end Renames

end Substitution

namespace RuleDraft

/-- The variables free in the premises or in the conclusion. -/
def freeVars (draft : RuleDraft) : VarSet :=
  (Term.freeVarsAll (draft.premises.map Judgment.term)).union draft.conclusion.freeVars

theorem mem_freeVars_of_premise {draft : RuleDraft} {premise : Judgment}
    (member : premise ∈ draft.premises) {x : Variable} (hx : x ∈ premise.freeVars)
    : x ∈ draft.freeVars := by
  have listed : premise.term ∈ draft.premises.map Judgment.term := List.mem_map_of_mem member
  exact VarSet.mem_union.mpr (Or.inl (Term.mem_freeVarsAll.mpr ⟨premise.term, listed, hx⟩))

theorem mem_freeVars_of_conclusion {draft : RuleDraft} {x : Variable}
    (hx : x ∈ draft.conclusion.freeVars)
    : x ∈ draft.freeVars :=
  VarSet.mem_union.mpr (Or.inr hx)

/-- The draft with a substitution applied to its premises and to its conclusion. -/
def instantiate (draft : RuleDraft) (s : Substitution) : RuleDraft where
  name := draft.name
  premises := draft.premises.map (fun premise => premise.instantiate s)
  conclusion := draft.conclusion.instantiate s

theorem Valid.instantiate {draft : RuleDraft} (valid : draft.Valid) (s : Substitution)
    : (draft.instantiate s).Valid := by
  refine ⟨valid.conclusion.instantiate s, fun instantiated member => ?_⟩
  obtain ⟨premise, premised, rfl⟩ := List.mem_map.mp member
  exact (valid.premises premise premised).instantiate s

end RuleDraft

namespace Rule

variable {rule other : Rule} {r : Substitution} (renames : r.Renames rule.freeVars)
  (renamed : other.toRuleDraft = rule.toRuleDraft.instantiate r)

include renames renamed

/-- A renamed rule is grounded if the rule is, and only then, since no variable of the premises
alone is given the new name of a variable of the conclusion.
-/
theorem grounded_of_renames : rule.grounded = other.grounded := by
  have premises := congrArg RuleDraft.premises renamed
  have conclusion := congrArg RuleDraft.conclusion renamed
  rw [Bool.eq_iff_iff, grounded_iff, grounded_iff, premises, conclusion]
  constructor
  · intro bound instantiated member y hy
    obtain ⟨premise, premised, rfl⟩ := List.mem_map.mp member
    obtain ⟨x, hx, put⟩ := Substitution.mem_freeVars_apply.mp hy
    exact Substitution.mem_freeVars_apply.mpr ⟨x, bound premise premised x hx, put⟩
  · intro bound premise premised x hx
    have inside : x ∈ rule.freeVars := RuleDraft.mem_freeVars_of_premise premised hx
    obtain ⟨y, image⟩ := renames.exists_var inside
    have occurs : y ∈ (premise.instantiate r).freeVars :=
      Substitution.mem_freeVars_apply.mpr ⟨x, hx, by rw [image, Term.mem_freeVars_var]⟩
    obtain ⟨x', hx', put⟩ := Substitution.mem_freeVars_apply.mp
      (bound (premise.instantiate r) (List.mem_map_of_mem premised) y occurs)
    have concluded : x' ∈ rule.freeVars := RuleDraft.mem_freeVars_of_conclusion hx'
    obtain ⟨y', image'⟩ := renames.exists_var concluded
    rw [image', Term.mem_freeVars_var] at put
    rw [← put] at image'
    exact renames.eq_of_apply_var inside concluded image image' ▸ hx'

/-- A renamed rule can stand in for the rule. -/
theorem interchangeable_of_renames : rule.Interchangeable other := by
  have name := congrArg RuleDraft.name renamed
  have premises := congrArg RuleDraft.premises renamed
  have conclusion := congrArg RuleDraft.conclusion renamed
  have family : rule.family = other.family := (congrArg Judgment.family conclusion).symm
  refine interchangeable_of_solutions name.symm family (grounded_of_renames renames renamed) ?_ ?_
  · intro s t taken
    obtain ⟨value, closed, inverse⟩ := renames.exists_inverse s
    refine Term.exists_match?_of_subst closed ?_
    have back : ∀ x ∈ rule.conclusion.term.freeVars, x ∉ ([] : List Variable)
        → (r.nameless x).subst value = s.nameless x :=
      fun x hx _ => inverse x (RuleDraft.mem_freeVars_of_conclusion hx)
    rw [conclusion]
    calc (r.apply rule.conclusion.term).nameless.subst value
        = rule.conclusion.term.nameless.subst (fun x => (r.nameless x).subst value) := by
          rw [Substitution.nameless_apply, Nameless.subst_subst]
      _ = rule.conclusion.term.nameless.subst s.nameless := Term.subst_namelessIn_inj.mpr back
      _ = t.nameless := by rw [← Substitution.nameless_apply, Term.alphaEq_iff.mp taken]
  · intro o t taken
    have composed (j : Judgment)
        : (j.instantiate (r.andThen o)).alphaEq ((j.instantiate r).instantiate o) = true := by
      refine Judgment.alphaEq_iff.mpr ⟨Term.alphaEq_iff.mpr ?_, rfl⟩
      exact (Substitution.nameless_apply_andThen r o j.term).trans
        (Substitution.nameless_apply o (r.apply j.term)).symm
    rw [conclusion] at taken
    have concluded := (Judgment.alphaEq_iff.mp (composed rule.conclusion)).1
    refine ⟨r.andThen o, Term.alphaEq_trans concluded taken, ?_⟩
    rw [premises]
    exact List.forall₂_map_right_iff.mpr (List.forall₂_same.mpr fun premise _ => composed premise)

end Rule

namespace Search

/-- The variables of a rule are local names: if every rule of a rulebook is renamed, each in its own
way, the renamed rules make up a rulebook too, and every search in it has the same counters and an
equal result, a proof or an error, up to bound names. The new names may be names of the goal or of
binders of the rule.
-/
theorem run_renamed_rules (book : Rulebook) (naming : Rule → Substitution)
    (renames : ∀ rule ∈ book.toList, (naming rule).Renames rule.freeVars)
    : ∃ other,
        Rulebook.empty.declare?
            (book.toList.map (fun rule => rule.toRuleDraft.instantiate (naming rule)))
          = .ok other
        ∧ ∀ (budget : Option Nat) (goal : Judgment) (depthBound : Nat),
            let left := run book budget (.unproved goal) depthBound
            let right := run other budget (.unproved goal) depthBound
            left.stats = right.stats ∧ left.sameResult right = true := by
  let drafts := book.toList.map (fun rule => rule.toRuleDraft.instantiate (naming rule))
  have valid : ∀ draft ∈ drafts, draft.Valid := by
    intro draft member
    obtain ⟨rule, _, rfl⟩ := List.mem_map.mp member
    have checked : rule.toRuleDraft.Valid := ⟨rule.conclusion_valid, rule.premises_valid⟩
    exact checked.instantiate (naming rule)
  have distinct : (drafts.map RuleDraft.name).Nodup := by
    rw [List.map_map]
    exact book.names_nodup
  obtain ⟨other, declared, kept⟩ := Rulebook.exists_declare? valid distinct
  refine ⟨other, declared, fun budget goal depthBound => ?_⟩
  have listed : List.Forall₂ Eq drafts (other.toList.map Rule.toRuleDraft) := by
    rw [List.forall₂_eq_eq_eq, kept]
  have renamed := List.forall₂_map_right_iff.mp (List.forall₂_map_left_iff.mp listed)
  have rules : List.Forall₂ Rule.Interchangeable book.toList other.toList := by
    refine List.forall₂_iff_zip.mpr ⟨renamed.length_eq, fun {rule rule'} pair => ?_⟩
    exact Rule.interchangeable_of_renames (renames rule (List.of_mem_zip pair).1)
      (List.forall₂_zip renamed pair).symm
  exact alike_run rules (Judgment.alphaEq_refl goal) budget depthBound

/-- The judgment that a function is constant. -/
def isConstant (t : Term) : Judgment := ⟨.app "constant" [t], ⟨"constant", 1⟩⟩

/-- Functions that are constant, and functions composed with such a one. -/
def composedDrafts : List RuleDraft :=
  [
    { name := "always", conclusion := isConstant (.abs ⟨"x", 0⟩ (Samples.v "m")) },
    {
      name := "after",
      premises := [isConstant (Samples.v "f")],
      conclusion := isConstant (.app "compose" [Samples.v "f", Samples.v "g"])
    },
    {
      name := "between",
      premises := [isConstant (.app "compose" [Samples.v "f", Samples.v "h"])],
      conclusion := isConstant (.app "compose" [Samples.v "f", Samples.v "g"])
    }
  ]

/-- One renaming takes a name to that of a binder above it, the other swaps two names. -/
theorem run_renamed_rules_of_composedDrafts
    : let book := Rulebook.empty.declare composedDrafts
      let naming (rule : Rule) : Substitution :=
        if rule.name = "always" then .singleton ⟨"m", 0⟩ (Samples.v "x")
        else .ofList [(⟨"f", 0⟩, Samples.v "g"), (⟨"g", 0⟩, Samples.v "f")]
      let goal := isConstant (.app "compose" [.abs ⟨"y", 0⟩ (Samples.v "x"), Samples.v "g"])
      (∀ rule ∈ book.toList, (naming rule).Renames rule.freeVars)
      ∧ (run book none (.unproved goal) 2).result.isOk = true
      ∧ (run book (some 1) (.unproved goal) 2).result.isOk = false
      ∧ ∃ other,
          Rulebook.empty.declare?
              (book.toList.map (fun rule => rule.toRuleDraft.instantiate (naming rule)))
            = .ok other
          ∧ (run book none (.unproved goal) 2).sameResult (run other none (.unproved goal) 2) = true
          ∧ (run book (some 1) (.unproved goal) 2).sameResult
              (run other (some 1) (.unproved goal) 2) = true := by
  intro book naming goal
  have renames : ∀ rule ∈ book.toList, (naming rule).Renames rule.freeVars := by decide
  obtain ⟨other, declared, alike⟩ := run_renamed_rules book naming renames
  exact ⟨renames, by decide, by decide, other, declared, (alike none goal 2).2,
    (alike (some 1) goal 2).2⟩

end Search

end Backchain
