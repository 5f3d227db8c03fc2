import Backchain.Matching
import Backchain.ProofTree
import Backchain.Rulebook

/-! Backward proof search within a depth bound. A goal is closed by the rules of its family in
declaration order: the conclusion must match the goal, and the instantiated premises are closed from
left to right with one level less. A rule whose premises cannot all be closed is given up for the
next one. A limit may be set on the number of rules tried over the whole search. A prover always
sets one: its attempt budget or, without a budget, the greatest number of attempts it can count.
-/

namespace Backchain

/-- Why a search ended without a proof. -/
inductive ExhaustionReason where
  | searchSpace
  | attemptBudget
deriving DecidableEq

/-- The wording of each reason. -/
def ExhaustionReason.display : ExhaustionReason → String
  | .searchSpace => "search space exhausted"
  | .attemptBudget => "attempt budget spent"

/-- Why a search has no proof to return. -/
inductive SearchError where
  | exhausted (goal : Judgment) (depthBound attempts : Nat) (reason : ExhaustionReason)
  | malformedGoal (cause : MalformedJudgment)
  | rootNotOpen (goal : Judgment)

/-- The wording of each cause. -/
def SearchError.message : SearchError → String
  | .exhausted goal depthBound attempts reason =>
      "No proof of `" ++ goal.display ++ "` found within depth bound " ++ toString depthBound
        ++ " (" ++ toString attempts ++ " rule attempts, " ++ reason.display ++ ")."
  | .malformedGoal cause => "Malformed goal: " ++ cause.message
  | .rootNotOpen goal =>
      "Proof search must start from an open goal, but `" ++ goal.display
        ++ "` is already justified."

/-- Whether two causes are of one kind and about equal goals, up to bound names. -/
def SearchError.alphaEq : SearchError → SearchError → Bool
  | .exhausted goal depthBound attempts reason,
    .exhausted other otherBound otherAttempts otherReason =>
      goal.alphaEq other && depthBound = otherBound && attempts = otherAttempts
        && reason = otherReason
  | .malformedGoal cause, .malformedGoal other => cause.alphaEq other
  | .rootNotOpen goal, .rootNotOpen other => goal.alphaEq other
  | _, _ => false

/-- The counters of a search: rules tried, rules whose conclusion matched, and the deepest level at
which a goal was considered, the root being at level one.
-/
structure SearchStats where
  attempts : Nat := 0
  matched : Nat := 0
  maxDepth : Nat := 0
deriving DecidableEq, Inhabited

/-- What happens during a search. -/
inductive SearchEvent where
  | refused (goal : Judgment) (cause : MalformedJudgment)
  | started (goal : Judgment) (depthBound : Nat)
  | depthExhausted (goal : Judgment)
  | skipped (rule : Symbol) (goal : Judgment)
  | trying (rule : Symbol) (goal : Judgment) (substitution : Substitution)
  | backtracking (rule : Symbol) (goal : Judgment)
  | found (goal : Judgment) (height attempts : Nat)
  | gaveUp (goal : Judgment) (depthBound attempts : Nat) (reason : ExhaustionReason)

/-- The log record of an event. -/
def SearchEvent.record : SearchEvent → Log.Record
  | .refused goal cause =>
      ⟨.debug, "Refusing to search malformed goal `" ++ goal.display ++ "`: " ++ cause.message⟩
  | .started goal depthBound =>
      ⟨.debug, "Searching a proof of `" ++ goal.display ++ "` within depth "
        ++ toString depthBound⟩
  | .depthExhausted goal => ⟨.trace, "Depth exhausted at `" ++ goal.display ++ "`"⟩
  | .skipped rule goal =>
      ⟨.trace, "Skipping ungrounded rule `" ++ rule ++ "` on `" ++ goal.display ++ "`"⟩
  | .trying rule goal substitution =>
      ⟨.trace, "Trying rule `" ++ rule ++ "` on `" ++ goal.display ++ "` with "
        ++ substitution.display⟩
  | .backtracking rule goal =>
      ⟨.trace, "Rule `" ++ rule ++ "` failed on `" ++ goal.display ++ "`, backtracking"⟩
  | .found goal height attempts =>
      ⟨.debug, "Found a proof of `" ++ goal.display ++ "` of height " ++ toString height
        ++ " after " ++ toString attempts ++ " attempts"⟩
  | .gaveUp goal depthBound attempts reason =>
      ⟨.debug, "No proof of `" ++ goal.display ++ "` within depth " ++ toString depthBound
        ++ " after " ++ toString attempts ++ " attempts (" ++ reason.display ++ ")"⟩

/-- How far a search has come: its counters and what has happened, in order. -/
structure Progress where
  stats : SearchStats := {}
  events : Array SearchEvent := #[]
deriving Inhabited

namespace Progress

/-- Notes an event. -/
def note (progress : Progress) (event : SearchEvent) : Progress :=
  { progress with events := progress.events.push event }

/-- Counts a rule that is tried. -/
def countAttempt (progress : Progress) : Progress :=
  { progress with stats.attempts := progress.stats.attempts + 1 }

/-- Counts a rule whose conclusion matched. -/
def countMatch (progress : Progress) : Progress :=
  { progress with stats.matched := progress.stats.matched + 1 }

/-- Counts a level at which a goal is considered. -/
def reachLevel (progress : Progress) (level : Nat) : Progress :=
  { progress with stats.maxDepth := max progress.stats.maxDepth level }

end Progress

/-- The end of an attempt to close something: closed, not closable within the depth, or abandoned
because the attempt budget is spent.
-/
inductive Outcome (α : Type) where
  | closed (value : α)
  | failed
  | budgetSpent

namespace Search

/-- Whether a budget allows no further attempt. If there is none, there is no limit at all. -/
def isSpent (budget : Option Nat) (progress : Progress) : Bool :=
  budget.any (fun limit => limit ≤ progress.stats.attempts)

/-- Closes goals from left to right, up to the first that is not closed. -/
def closeAll (close : Judgment → Progress → Outcome ProofTree × Progress)
    : List Judgment → Progress → Outcome (List ProofTree) × Progress
  | [], progress => (.closed [], progress)
  | goal :: rest, progress =>
      match close goal progress with
      | (.failed, next) => (.failed, next)
      | (.budgetSpent, next) => (.budgetSpent, next)
      | (.closed tree, next) =>
          match closeAll close rest next with
          | (.failed, last) => (.failed, last)
          | (.budgetSpent, last) => (.budgetSpent, last)
          | (.closed trees, last) => (.closed (tree :: trees), last)

/-- Tries rules on a goal in order, closing the premises of each rule that matches. -/
def tryRules (close : Judgment → Progress → Outcome ProofTree × Progress)
    (budget : Option Nat) (goal : Judgment)
    : List Rule → Progress → Outcome ProofTree × Progress
  | [], progress => (.failed, progress)
  | rule :: rest, progress =>
      if !rule.grounded then
        tryRules close budget goal rest (progress.note (.skipped rule.name goal))
      else if isSpent budget progress then (.budgetSpent, progress)
      else
        match rule.conclusion.term.match? goal.term with
        | none => tryRules close budget goal rest progress.countAttempt
        | some substitution =>
            let inst : RuleInstance := ⟨rule, substitution⟩
            let started :=
              progress.countAttempt.countMatch.note (.trying rule.name goal substitution)
            match closeAll close inst.premises started with
            | (.closed children, next) => (.closed (.derived goal inst children), next)
            | (.budgetSpent, next) => (.budgetSpent, next)
            | (.failed, next) =>
                tryRules close budget goal rest (next.note (.backtracking rule.name goal))

/-- Closes a goal at a level with at most the given number of nested rule applications. -/
def close (book : Rulebook) (budget : Option Nat)
    : Nat → Nat → Judgment → Progress → Outcome ProofTree × Progress
  | 0, _, goal, progress => (.failed, progress.note (.depthExhausted goal))
  | remaining + 1, level, goal, progress =>
      tryRules (close book budget remaining (level + 1)) budget goal
        (book.candidates goal.family) (progress.reachLevel level)

end Search

/-- A finished search: its result, its counters, and what happened. -/
structure SearchRun where
  result : Except SearchError ProofTree
  stats : SearchStats
  events : Array SearchEvent

namespace SearchRun

/-- What a search writes to the log. -/
def records (run : SearchRun) : List Log.Record := run.events.toList.map SearchEvent.record

/-- Whether two runs have equal proofs or failed for equal causes, up to bound names. -/
def sameResult (run other : SearchRun) : Bool :=
  match run.result, other.result with
  | .ok tree, .ok otherTree => tree.alphaEq otherTree
  | .error cause, .error otherCause => cause.alphaEq otherCause
  | _, _ => false

end SearchRun

namespace Search

/-- The run that a search of a well-formed goal amounts to. -/
def finish (goal : Judgment) (depthBound : Nat) (ended : Outcome ProofTree × Progress)
    : SearchRun :=
  let stats := ended.2.stats
  let giveUp (reason : ExhaustionReason) : SearchRun :=
    {
      result := .error (.exhausted goal depthBound stats.attempts reason),
      stats,
      events := ended.2.events.push (.gaveUp goal depthBound stats.attempts reason)
    }
  match ended.1 with
  | .closed tree =>
      {
        result := .ok tree,
        stats,
        events := ended.2.events.push (.found goal tree.height stats.attempts)
      }
  | .failed => giveUp .searchSpace
  | .budgetSpent => giveUp .attemptBudget

/-- Searches a proof of a judgment within a depth bound and an attempt budget. -/
def runGoal (book : Rulebook) (budget : Option Nat) (goal : Judgment) (depthBound : Nat)
    : SearchRun :=
  match goal.validate with
  | .error cause =>
      {
        result := .error (.malformedGoal cause),
        stats := {},
        events := #[.refused goal cause]
      }
  | .ok () =>
      finish goal depthBound
        (close book budget depthBound 1 goal { events := #[.started goal depthBound] })

/-- Searches a proof of the unproved root of a tree. -/
def run (book : Rulebook) (budget : Option Nat) (root : ProofTree) (depthBound : Nat)
    : SearchRun :=
  match root with
  | .derived goal _ _ =>
      { result := .error (.rootNotOpen goal), stats := {}, events := #[] }
  | .unproved goal => runGoal book budget goal depthBound

end Search

/-- A prover: the rules that it tries and its attempt budget, if it has one. Attempts are counted in
a machine word, of 64 bits unless another greatest count is given.
-/
structure Prover where
  book : Rulebook
  attemptBudget : Option Nat := none
  greatestCount : Nat := UInt64.size - 1

namespace Prover

/-- The number of attempts that a prover may make: its budget or, without one, all it can count. -/
def limit (prover : Prover) : Nat := prover.attemptBudget.getD prover.greatestCount

/-- Searches a proof of the unproved root of a tree within a depth bound. -/
def search (prover : Prover) (root : ProofTree) (depthBound : Nat) : SearchRun :=
  Search.run prover.book (some prover.limit) root depthBound

end Prover

end Backchain
