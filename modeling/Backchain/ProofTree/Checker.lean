import Backchain.Matching
import Backchain.ProofTree
import Backchain.Rulebook

/-! Checking a proof tree against a rulebook. Each node must be derived by a rule of the book whose
conclusion matches the node and whose instantiated premises are the judgments of the subtrees.
-/

namespace Backchain

/-- Why a proof tree is not a derivation. -/
inductive CheckError where
  | openGoal (goal : Judgment)
  | unknownRule (rule : Symbol)
  | conclusionMismatch (rule : Symbol) (expected found : Judgment)
  | premiseCountMismatch (rule : Symbol) (expected found : Nat)
  | premiseMismatch (rule : Symbol) (index : Nat) (expected found : Judgment)

/-- The wording of each cause. -/
def CheckError.message : CheckError → String
  | .openGoal goal => "Judgment `" ++ goal.display ++ "` is still open."
  | .unknownRule rule => "Rule `" ++ rule ++ "` is not part of the rule database."
  | .conclusionMismatch rule expected found =>
      "Rule `" ++ rule ++ "` concludes `" ++ expected.display ++ "`, but the node proves `"
        ++ found.display ++ "`."
  | .premiseCountMismatch rule expected found =>
      "Rule `" ++ rule ++ "` has " ++ toString expected ++ " premises, but the node has "
        ++ toString found ++ " children."
  | .premiseMismatch rule index expected found =>
      "Premise #" ++ toString index ++ " of rule `" ++ rule ++ "` is `" ++ expected.display
        ++ "`, but the child proves `" ++ found.display ++ "`."

/-- Whether two causes are of one kind and about equal judgments, up to bound names. -/
def CheckError.alphaEq : CheckError → CheckError → Bool
  | .openGoal goal, .openGoal other => goal.alphaEq other
  | .unknownRule rule, .unknownRule other => rule = other
  | .conclusionMismatch rule expected found,
    .conclusionMismatch otherRule otherExpected otherFound =>
      rule = otherRule && expected.alphaEq otherExpected && found.alphaEq otherFound
  | .premiseCountMismatch rule expected found,
    .premiseCountMismatch otherRule otherExpected otherFound =>
      rule = otherRule && expected = otherExpected && found = otherFound
  | .premiseMismatch rule index expected found,
    .premiseMismatch otherRule otherIndex otherExpected otherFound =>
      rule = otherRule && index = otherIndex && expected.alphaEq otherExpected
        && found.alphaEq otherFound
  | _, _ => false

/-- Whether two checks both pass or both fail for equal causes, up to bound names. -/
def CheckError.sameVerdict : Except CheckError Unit → Except CheckError Unit → Bool
  | .ok (), .ok () => true
  | .error cause, .error other => cause.alphaEq other
  | _, _ => false

namespace ProofTree

mutual
/-- Checks a proof tree from its root. The rule is checked before the conclusion, the conclusion
before the number of premises, and the subtrees from left to right.
-/
def check (book : Rulebook) : ProofTree → Except CheckError Unit
  | .unproved goal => .error (.openGoal goal)
  | .derived goal inst children =>
      match (book.get? inst.rule.name).filter (fun rule => rule.alphaEq inst.rule) with
      | none => .error (.unknownRule inst.rule.name)
      | some rule =>
          if rule.family ≠ goal.family then
            .error (.conclusionMismatch inst.rule.name rule.conclusion goal)
          else
            match rule.conclusion.term.match? goal.term with
            | none => .error (.conclusionMismatch inst.rule.name rule.conclusion goal)
            | some s =>
                if rule.premises.length ≠ children.length then
                  .error (.premiseCountMismatch inst.rule.name rule.premises.length
                    children.length)
                else
                  checkPremises book inst.rule.name 0
                    (rule.premises.map (fun premise => premise.instantiate s)) children

/-- Checks subtrees against the premises that they should prove, from left to right. -/
def checkPremises (book : Rulebook) (rule : Symbol) (index : Nat)
    : List Judgment → List ProofTree → Except CheckError Unit
  | premise :: premises, child :: children =>
      if premise.alphaEq child.judgment then
        match child.check book with
        | .error e => .error e
        | .ok () => checkPremises book rule (index + 1) premises children
      else .error (.premiseMismatch rule index premise child.judgment)
  | _, _ => .ok ()
end

end ProofTree

end Backchain
