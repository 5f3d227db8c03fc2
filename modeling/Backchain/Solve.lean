import Backchain.Diagnostic
import Backchain.Output
import Backchain.ProofTree.Printer
import Backchain.Search
import Backchain.Settings

/-! Derivation steps justified by proof search. The statement of a step is instantiated and searched
within the settings. A proof that is found is printed and still reported by a warning, since the
search sees only a bounded part of what the rules derive; a search without a proof is an error.
-/

namespace Backchain

/-- The statement of a step: a term, and the family of judgments that it names, if any. -/
structure Clause where
  term : Term
  family : Option Family

/-- A named step that is to be justified by proof search. -/
structure SolveStep where
  name : String
  clause : Clause
  span : Option Span

/-- A step as it is displayed. -/
def SolveStep.display (step : SolveStep) : String :=
  step.name ++ ": " ++ step.clause.term.display ++ " by solve"

/-- How a step ended. -/
inductive SolveOutcome where
  | proved (tree : ProofTree)
  | notFound
  | malformed

/-- A step after it has been checked: how it ended, unless the output failed; the output; what the
user is told; what happened during the search; and what is logged after it.
-/
structure SolveResult where
  outcome : Except StorageError SolveOutcome
  output : Output
  diagnostics : List Diagnostic
  events : Array SearchEvent := #[]
  closing : List Log.Record := []

/-- What checking a step writes to the log. -/
def SolveResult.records (result : SolveResult) : List Log.Record :=
  result.events.toList.map SearchEvent.record ++ result.closing

/-- Checks steps by searching a rulebook within settings. -/
structure Solver where
  book : Rulebook
  settings : Settings := {}

namespace Solver

/-- The prover that a solver searches with. -/
def prover (solver : Solver) : Prover :=
  { book := solver.book, attemptBudget := solver.settings.attemptBudget }

/-- The chunks in which a proof is printed: the laid out tree, the end of its last line, and an
empty line.
-/
def proofChunks (solver : Solver) (coloring : Coloring) (tree : ProofTree) : List String :=
  tree.doc.chunks coloring solver.settings.renderWidth ++ ["\n", "\n"]

/-- Checks a step under the substitution of the proof around it. -/
def solve (solver : Solver) (step : SolveStep) (current : Substitution) (out : Output)
    : SolveResult :=
  let term := current.apply step.clause.term
  match step.clause.family with
  | none =>
      {
        outcome := .ok .malformed,
        output := out,
        diagnostics :=
          [{
            severity := .error,
            kind := .solveMalformedGoal,
            message := "Malformed goal: `" ++ term.display ++ "` is not a judgment.",
            span := step.span
          }],
        closing := [⟨.debug, "Step `" ++ step.name ++ "` does not name a judgment"⟩]
      }
  | some family =>
      let run := solver.prover.search (.unproved ⟨term, family⟩) solver.settings.depthBound
      match run.result with
      | .ok tree =>
          let closing : List Log.Record :=
            [⟨.info, "Step `" ++ step.name ++ "` proved by solve (" ++ toString tree.size
              ++ " rule applications, " ++ toString run.stats.attempts ++ " attempts)"⟩]
          match out.writeAll (solver.proofChunks out.coloring tree) with
          | (written, .error e) =>
              {
                outcome := .error e,
                output := written,
                diagnostics := [],
                events := run.events,
                closing
              }
          | (written, .ok ()) =>
              {
                outcome := .ok (.proved tree),
                output := written,
                diagnostics :=
                  [{
                    severity := .warning,
                    kind := .solveUnreliable,
                    message := "proof by solve is not reliable",
                    span := step.span
                  }],
                events := run.events,
                closing
              }
      | .error (.exhausted goal depthBound attempts reason) =>
          {
            outcome := .ok .notFound,
            output := out,
            diagnostics :=
              [{
                severity := .error,
                kind := .solveFailed,
                message := "Unable to find proof",
                span := step.span,
                debugInfo :=
                  some (SearchError.exhausted goal depthBound attempts reason).message
              }],
            events := run.events
          }
      | .error e =>
          {
            outcome := .ok .malformed,
            output := out,
            diagnostics :=
              [{
                severity := .error,
                kind := .solveMalformedGoal,
                message := e.message,
                span := step.span
              }],
            events := run.events
          }

end Solver

end Backchain
