import Backchain.Judgment
import Backchain.Log

/-! Inference rules. A rule concludes one judgment from its premises; its free variables stand for
terms. Every judgment of a rule has the shape of its family.
-/

namespace Backchain

/-- Why a rule cannot be built or declared. -/
inductive RuleError where
  | duplicateRule (rule : Symbol)
  | malformedConclusion (rule : Symbol) (cause : MalformedJudgment)
  | malformedPremise (rule : Symbol) (index : Nat) (cause : MalformedJudgment)

/-- The wording of each cause. -/
def RuleError.message : RuleError → String
  | .duplicateRule rule =>
      "A rule named `" ++ rule ++ "` is already declared in the rule database."
  | .malformedConclusion rule cause =>
      "The conclusion of rule `" ++ rule ++ "` is malformed: " ++ cause.message
  | .malformedPremise rule index cause =>
      "Premise #" ++ toString index ++ " of rule `" ++ rule ++ "` is malformed: "
        ++ cause.message

/-- A rule as it is written, before its judgments have been checked. -/
structure RuleDraft where
  name : Symbol
  premises : List Judgment := []
  conclusion : Judgment

namespace RuleDraft

/-- The variables of the premises that do not occur in the conclusion, in order. -/
def unboundVars (draft : RuleDraft) : VarSet :=
  (Term.freeVarsAll (draft.premises.map Judgment.term)).diff draft.conclusion.freeVars

end RuleDraft

/-- An inference rule. It is grounded if matching its conclusion fixes all of its variables. -/
structure Rule extends RuleDraft where
  grounded : Bool
  conclusion_valid : conclusion.Valid
  premises_valid : ∀ premise ∈ premises, premise.Valid
  grounded_eq : grounded = toRuleDraft.unboundVars.isEmpty

namespace Rule

/-- The family that a rule concludes. -/
def family (rule : Rule) : Family := rule.conclusion.family

/-- The first premise that does not have the shape of its family, with its index. -/
def firstMalformed? : List Judgment → Nat → Option (Nat × MalformedJudgment)
  | [], _ => none
  | premise :: rest, index =>
      match premise.validate with
      | .error cause => some (index, cause)
      | .ok () => firstMalformed? rest (index + 1)

/-- Without a malformed premise every premise is valid, by list induction. -/
theorem valid_of_firstMalformed?_eq_none {premises : List Judgment} {index : Nat}
    (h : firstMalformed? premises index = none)
    : ∀ premise ∈ premises, premise.Valid := by
  induction premises generalizing index with
  | nil => exact fun _ hm => nomatch hm
  | cons first rest ih =>
      intro premise hm
      simp only [firstMalformed?] at h
      split at h
      · cases h
      · rename_i hv
        rcases List.mem_cons.mp hm with rfl | hm
        · exact hv
        · exact ih h premise hm

/-- Checks a draft: first its conclusion, then its premises in order. -/
def ofDraft (draft : RuleDraft) : Except RuleError Rule :=
  match hc : draft.conclusion.validate with
  | .error cause => .error (.malformedConclusion draft.name cause)
  | .ok () =>
      match hp : firstMalformed? draft.premises 0 with
      | some (index, cause) => .error (.malformedPremise draft.name index cause)
      | none =>
          .ok
            {
              toRuleDraft := draft,
              grounded := draft.unboundVars.isEmpty,
              conclusion_valid := hc,
              premises_valid := valid_of_firstMalformed?_eq_none hp,
              grounded_eq := rfl
            }

/-- Whether two rules have one name and equal judgments, up to bound names. -/
def alphaEq (rule other : Rule) : Bool :=
  rule.name = other.name
    && rule.premises.length = other.premises.length
    && (rule.premises.zip other.premises).all (fun pair => pair.1.alphaEq pair.2)
    && rule.conclusion.alphaEq other.conclusion
    && rule.grounded = other.grounded

/-- What is logged when a rule is built. -/
def records (rule : Rule) : List Log.Record :=
  if rule.grounded then []
  else
    [⟨.debug, "Rule `" ++ rule.name
      ++ "` has premise-only metavariables; backward search will not apply it"⟩]

/-- The document of a rule: its name, its conclusion, and its premises after a turnstile. -/
def doc (rule : Rule) : Doc :=
  let head := .styled .rule rule.name ++ .punctuation ":" ++ .space ++ rule.conclusion.doc
  match rule.premises with
  | [] => .group head
  | premises =>
      .group (head ++ .line ++ .keyword ":-" ++ .space
        ++ .nest 2 (.separate (.punctuation "," ++ .line) (premises.map Judgment.doc)))

/-- A rule as it is displayed. -/
def display (rule : Rule) : String := rule.doc.render Doc.displayColumns

end Rule

/-- A rule together with the substitution that fixes its variables. -/
structure RuleInstance where
  rule : Rule
  substitution : Substitution

namespace RuleInstance

/-- The conclusion of the rule under the substitution. -/
def conclusion (inst : RuleInstance) : Judgment :=
  inst.rule.conclusion.instantiate inst.substitution

/-- The premises of the rule under the substitution, in order. -/
def premises (inst : RuleInstance) : List Judgment :=
  inst.rule.premises.map (fun premise => premise.instantiate inst.substitution)

end RuleInstance

end Backchain
