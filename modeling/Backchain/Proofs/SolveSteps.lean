import Backchain.Proofs.SearchCorrectness
import Backchain.Solve

/-! What a derivation step leads to: its outcome, what is printed and what the user is told. All
three follow from the search for its judgment and from whether the whole printed proof fits into the
output, however the proof is cut into chunks.
-/

namespace Backchain

namespace Output

theorem push_empty (out : Output) : out.push "" = out := by
  simp [push]

theorem push_push (out : Output) (first second : String)
    : (out.push first).push second = out.push (first ++ second) := by
  simp [push, String.append_assoc]

/-- There is room for two texts if there is room for the first, and for the second after it. -/
theorem hasRoom_push (out : Output) (first second : String)
    : (out.push first).hasRoom second = out.hasRoom (first ++ second) := by
  simp [hasRoom, push, Nat.add_assoc]

theorem hasRoom_eq_true_iff {out : Output} {text : String}
    : out.hasRoom text = true
      ↔ ∀ limit ∈ out.limit, out.written.utf8ByteSize + text.utf8ByteSize ≤ limit := by
  cases bounded : out.limit <;> simp [hasRoom, bounded]

theorem hasRoom_eq_false_iff {out : Output} {text : String}
    : out.hasRoom text = false
      ↔ ∃ limit ∈ out.limit, limit < out.written.utf8ByteSize + text.utf8ByteSize := by
  cases bounded : out.limit <;> simp [hasRoom, bounded]

theorem hasRoom_of_append {out : Output} {first second : String}
    (room : out.hasRoom (first ++ second) = true)
    : out.hasRoom first = true := by
  refine hasRoom_eq_true_iff.mpr (fun limit bounded => ?_)
  have fits := hasRoom_eq_true_iff.mp room limit bounded
  rw [String.utf8ByteSize_append] at fits
  omega

/-- Chunks are all written if there is room for them together, by induction on the chunks. -/
theorem writeAll_of_room {out : Output} {chunks : List String}
    (room : out.hasRoom (String.join chunks) = true)
    : out.writeAll chunks = (out.push (String.join chunks), .ok ()) := by
  induction chunks generalizing out with
  | nil => rw [writeAll, String.join_nil, push_empty]
  | cons chunk rest ih =>
      rw [String.join_cons] at room ⊢
      have later : (out.push chunk).hasRoom (String.join rest) = true := by
        rw [hasRoom_push]
        exact room
      rw [writeAll, if_pos (hasRoom_of_append room), ih later, push_push]

/-- Without room for all chunks together the output is full at one of them, by induction on the
chunks.
-/
theorem writeAll_of_full {out : Output} {chunks : List String} (chunked : chunks ≠ [])
    (full : out.hasRoom (String.join chunks) = false)
    : (out.writeAll chunks).2 = .error .storageFull := by
  induction chunks generalizing out with
  | nil => exact absurd rfl chunked
  | cons chunk rest ih =>
      cases room : out.hasRoom chunk with
      | false =>
          rw [writeAll, room]
          rfl
      | true =>
          have later : (out.push chunk).hasRoom (String.join rest) = false := by
            rw [hasRoom_push, ← String.join_cons]
            exact full
          have remaining : rest ≠ [] := by
            rintro rfl
            rw [String.join_cons, String.join_nil, String.append_empty, room] at full
            cases full
          rw [writeAll, if_pos room]
          exact ih remaining later

end Output

/-- The search was given up without a proof. -/
def SearchRun.Exhausted (run : SearchRun) : Prop :=
  ∃ goal depthBound attempts reason,
    run.result = .error (.exhausted goal depthBound attempts reason)

/-- The judgment that a step states under a substitution, if it names a family. -/
def SolveStep.goal? (step : SolveStep) (current : Substitution) : Option Judgment :=
  step.clause.family.map (fun family => ⟨current.apply step.clause.term, family⟩)

theorem SolveStep.goal?_eq_none_iff (step : SolveStep) (current : Substitution)
    : step.goal? current = none ↔ step.clause.family = none := by
  simp [goal?]

/-- The severity and the kind of a diagnostic, and whether it has details, tell how a step ended. -/
structure Diagnostic.Tells (d : Diagnostic) (ended : SolveOutcome) : Prop where
  unreliable : d.severity = .warning ∧ d.kind = .solveUnreliable ↔ ∃ tree, ended = .proved tree
  failed
    : d.severity = .error ∧ d.kind = .solveFailed ∧ d.debugInfo.isSome = true ↔ ended = .notFound
  malformed : d.severity = .error ∧ d.kind = .solveMalformedGoal ↔ ended = .malformed

namespace SolveResult

/-- A step has ended in some way, and one diagnostic tells so and carries the step's place. -/
structure Reports (result : SolveResult) (step : SolveStep) (ended : SolveOutcome) : Prop where
  outcome : result.outcome = .ok ended
  told : ∃ d, result.diagnostics = [d] ∧ d.span = step.span ∧ d.Tells ended

/-- The sink of diagnostics after a step, to which each diagnostic is emitted in order. -/
def sunk {Sink : Type} (result : SolveResult) (emit : Sink → Diagnostic → Sink) (sink : Sink)
    : Sink :=
  result.diagnostics.foldl emit sink

end SolveResult

namespace Solver

/-- The search for a goal within the settings of a solver. -/
def search (solver : Solver) (goal : Judgment) : SearchRun :=
  solver.prover.search (.unproved goal) solver.settings.depthBound

/-- A proof as a solver prints it: rendered within the width of the settings, followed by the end of
its last line and an empty line.
-/
def proofText (solver : Solver) (coloring : Coloring) (tree : ProofTree) : String :=
  let rendered :=
    match coloring with
    | .plain => tree.doc.render solver.settings.renderWidth
    | .ansi => tree.doc.renderAnsi solver.settings.renderWidth
  rendered ++ "\n\n"

theorem join_proofChunks (solver : Solver) (coloring : Coloring) (tree : ProofTree)
    : String.join (solver.proofChunks coloring tree) = solver.proofText coloring tree := by
  have ends : String.join ["\n", "\n"] = "\n\n" := rfl
  rw [proofChunks, String.join_append, ends]
  cases coloring <;> rfl

theorem writeAll_proofChunks_of_room {solver : Solver} {tree : ProofTree} {out : Output}
    (room : out.hasRoom (solver.proofText out.coloring tree) = true)
    : out.writeAll (solver.proofChunks out.coloring tree)
      = (out.push (solver.proofText out.coloring tree), .ok ()) := by
  rw [← join_proofChunks] at room ⊢
  exact Output.writeAll_of_room room

theorem writeAll_proofChunks_of_full {solver : Solver} {tree : ProofTree} {out : Output}
    (full : out.hasRoom (solver.proofText out.coloring tree) = false)
    : (out.writeAll (solver.proofChunks out.coloring tree)).2 = .error .storageFull := by
  rw [← join_proofChunks] at full
  exact Output.writeAll_of_full (by simp [proofChunks]) full

/-- A malformed goal is refused; any other is searched, with or without success. -/
theorem search_cases (solver : Solver) (goal : Judgment)
    : (¬ goal.Valid ∧ ∃ cause, (solver.search goal).result = .error (.malformedGoal cause))
      ∨ (goal.Valid ∧ (solver.search goal).Exhausted)
      ∨ (goal.Valid ∧ ∃ tree, (solver.search goal).result = .ok tree) := by
  cases valid : goal.validate with
  | error cause =>
      refine Or.inl ⟨?_, cause, ?_⟩
      · rw [Judgment.Valid, valid]
        exact nofun
      · rw [search, Prover.search, Search.run, Search.runGoal, valid]
  | ok _ =>
      rw [search, Prover.search, Search.run_of_valid valid]
      generalize Search.ending solver.prover.book (some solver.prover.limit) goal
        solver.settings.depthBound = ended
      rcases ended with ⟨tree | _ | _, last⟩
      · exact Or.inr (Or.inr ⟨valid, tree, rfl⟩)
      · exact Or.inr (Or.inl ⟨valid, _, _, _, _, rfl⟩)
      · exact Or.inr (Or.inl ⟨valid, _, _, _, _, rfl⟩)

/-- How a step ends by the judgment that it states and by the search for a proof of it. -/
def Concludes (solver : Solver) (step : SolveStep) (current : Substitution) : SolveOutcome → Prop
  | .malformed => step.clause.family = none ∨ ∃ goal ∈ step.goal? current, ¬ goal.Valid
  | .notFound => ∃ goal ∈ step.goal? current, (solver.search goal).Exhausted
  | .proved tree => ∃ goal ∈ step.goal? current, (solver.search goal).result = .ok tree

/-- A step ends in exactly one of these ways. -/
theorem exists_concludes_iff (solver : Solver) (step : SolveStep) (current : Substitution)
    : ∃ verdict, ∀ ended, solver.Concludes step current ended ↔ ended = verdict := by
  cases stated : step.goal? current with
  | none =>
      have unnamed := (step.goal?_eq_none_iff current).mp stated
      refine ⟨.malformed, fun ended => ?_⟩
      cases ended <;> simp [Concludes, stated, unnamed]
  | some goal =>
      have named : step.clause.family ≠ none := by
        intro unnamed
        rw [(step.goal?_eq_none_iff current).mpr unnamed] at stated
        cases stated
      rcases solver.search_cases goal with
        ⟨invalid, cause, refused⟩ | ⟨valid, _, _, _, _, exhausted⟩ | ⟨valid, tree, found⟩
      · refine ⟨.malformed, fun ended => ?_⟩
        cases ended <;> simp [Concludes, SearchRun.Exhausted, stated, named, invalid, refused]
      · refine ⟨.notFound, fun ended => ?_⟩
        cases ended <;> simp [Concludes, SearchRun.Exhausted, stated, named, valid, exhausted]
      · refine ⟨.proved tree, fun ended => ?_⟩
        cases ended <;> simp [Concludes, SearchRun.Exhausted, stated, named, valid, found, eq_comm]

theorem concludes_unique {solver : Solver} {step : SolveStep} {current : Substitution}
    {ended other : SolveOutcome} (first : solver.Concludes step current ended)
    (second : solver.Concludes step current other)
    : ended = other := by
  obtain ⟨verdict, only⟩ := solver.exists_concludes_iff step current
  exact ((only ended).mp first).trans ((only other).mp second).symm

/-- What a solver prints for a step that ends in some way: a proof, and nothing without one. -/
def printed? (solver : Solver) (coloring : Coloring) : SolveOutcome → Option String
  | .proved tree => some (solver.proofText coloring tree)
  | .notFound | .malformed => none

theorem forall_printed?_proved {solver : Solver} {coloring : Coloring} {tree : ProofTree}
    {holds : String → Prop}
    : (∀ text ∈ solver.printed? coloring (.proved tree), holds text)
      ↔ holds (solver.proofText coloring tree) := by
  simp [printed?]

/-- A step has been checked as its judgment and the search demand: it is reported and its proof, if
there is one, is printed, or its proof does not fit into the output and nothing is reported.
-/
inductive Ends (solver : Solver) (step : SolveStep) (current : Substitution) (out : Output)
    (result : SolveResult)
    : Prop
  | reported {ended : SolveOutcome} (concludes : solver.Concludes step current ended)
    (room : ∀ text ∈ solver.printed? out.coloring ended, out.hasRoom text = true)
    (reports : result.Reports step ended)
    (output : result.output = (solver.printed? out.coloring ended).elim out out.push)
  | unwritten {tree : ProofTree} (concludes : solver.Concludes step current (.proved tree))
    (full : out.hasRoom (solver.proofText out.coloring tree) = false)
    (outcome : result.outcome = .error .storageFull) (untold : result.diagnostics = [])

theorem ends_solve (solver : Solver) (step : SolveStep) (current : Substitution) (out : Output)
    : solver.Ends step current out (solver.solve step current out) := by
  cases named : step.clause.family with
  | none =>
      have concludes : solver.Concludes step current .malformed := Or.inl named
      rw [solve, named]
      exact .reported concludes nofun ⟨rfl, _, rfl, rfl, by simp, by simp, by simp⟩ rfl
  | some family =>
      let goal : Judgment := ⟨current.apply step.clause.term, family⟩
      have stated : goal ∈ step.goal? current := by
        rw [SolveStep.goal?, named]
        rfl
      rw [solve, named]
      dsimp only
      rcases solver.search_cases goal with
        ⟨invalid, cause, refused⟩ | ⟨valid, exhausted⟩ | ⟨valid, tree, found⟩
      · have concludes : solver.Concludes step current .malformed := Or.inr ⟨goal, stated, invalid⟩
        rw [← search, refused]
        exact .reported concludes nofun ⟨rfl, _, rfl, rfl, by simp, by simp, by simp⟩ rfl
      · have concludes : solver.Concludes step current .notFound := ⟨goal, stated, exhausted⟩
        obtain ⟨_, _, _, _, result⟩ := exhausted
        rw [← search, result]
        exact .reported concludes nofun ⟨rfl, _, rfl, rfl, by simp, by simp, by simp⟩ rfl
      · have concludes : solver.Concludes step current (.proved tree) := ⟨goal, stated, found⟩
        rw [← search, found]
        dsimp only
        cases room : out.hasRoom (solver.proofText out.coloring tree) with
        | true =>
            rw [writeAll_proofChunks_of_room room]
            exact .reported concludes (forall_printed?_proved.mpr room)
              ⟨rfl, _, rfl, rfl, by simp, by simp, by simp⟩ rfl
        | false =>
            -- Which chunk found no room, and what was written before it, does not matter here.
            have full := writeAll_proofChunks_of_full room
            generalize out.writeAll (solver.proofChunks out.coloring tree) = ended at full ⊢
            rcases ended with ⟨partly, _ | _⟩
            · cases full
              exact .unwritten concludes room rfl rfl
            · cases full

namespace Ends

variable {solver : Solver} {step : SolveStep} {current : Substitution} {out : Output}
  {result : SolveResult} (ends : solver.Ends step current out result)

include ends

/-- A step ends as it is to end if there is room for what it prints. -/
theorem outcome_eq_ok_iff {ended : SolveOutcome}
    : result.outcome = .ok ended
      ↔ solver.Concludes step current ended
        ∧ ∀ text ∈ solver.printed? out.coloring ended, out.hasRoom text = true := by
  constructor
  · intro outcome
    cases ends with
    | reported concludes room reports =>
        cases reports.outcome.symm.trans outcome
        exact ⟨concludes, room⟩
    | unwritten _ _ failed => cases failed.symm.trans outcome
  · rintro ⟨demanded, room⟩
    cases ends with
    | reported concludes _ reports =>
        rw [concludes_unique demanded concludes]
        exact reports.outcome
    | unwritten concludes full =>
        cases concludes_unique demanded concludes
        rw [room _ rfl] at full
        cases full

/-- The only failure is a full output, which needs a proof that does not fit. -/
theorem outcome_eq_error_iff {cause : StorageError}
    : result.outcome = .error cause
      ↔ cause = .storageFull
        ∧ ∃ tree,
            solver.Concludes step current (.proved tree)
            ∧ out.hasRoom (solver.proofText out.coloring tree) = false := by
  constructor
  · intro outcome
    cases ends with
    | reported _ _ reports => cases reports.outcome.symm.trans outcome
    | unwritten concludes full failed =>
        cases failed.symm.trans outcome
        exact ⟨rfl, _, concludes, full⟩
  · rintro ⟨rfl, tree, demanded, full⟩
    cases ends with
    | reported concludes room =>
        cases concludes_unique concludes demanded
        rw [room _ rfl] at full
        cases full
    | unwritten _ _ failed => exact failed

theorem of_ok {ended : SolveOutcome} (outcome : result.outcome = .ok ended)
    : result.Reports step ended
      ∧ result.output = (solver.printed? out.coloring ended).elim out out.push := by
  cases ends with
  | reported _ _ reports output =>
      cases reports.outcome.symm.trans outcome
      exact ⟨reports, output⟩
  | unwritten _ _ failed => cases failed.symm.trans outcome

theorem untold_of_error {cause : StorageError} (outcome : result.outcome = .error cause)
    : result.diagnostics = [] := by
  cases ends with
  | reported _ _ reports => cases reports.outcome.symm.trans outcome
  | unwritten _ _ _ untold => exact untold

end Ends

/-- Outcome, output and diagnostics of a step agree, whatever the output holds already, whichever
limit of bytes it has, and whatever the sink does with a diagnostic. A step is malformed exactly
when it names no family or its judgment is not well formed for that family, and unproved exactly
when the search is exhausted. Otherwise the search has found a proof: the step ends with it if its
whole text fits into the output, and with a full output if it does not. A step that ends emits one
diagnostic, of the kind that tells how, and prints its proof or nothing; on a full output nothing is
emitted.
-/
theorem solve_agrees (solver : Solver) (step : SolveStep) (current : Substitution) (out : Output)
    {Sink : Type} (emit : Sink → Diagnostic → Sink) (sink : Sink)
    : let result := solver.solve step current out
      let size tree :=
        out.written.utf8ByteSize + (solver.proofText out.coloring tree).utf8ByteSize
      (result.outcome = .ok .malformed
        ↔ step.clause.family = none ∨ ∃ goal ∈ step.goal? current, ¬ goal.Valid)
      ∧ (result.outcome = .ok .notFound
        ↔ ∃ goal ∈ step.goal? current, (solver.search goal).Exhausted)
      ∧ (∀ tree, result.outcome = .ok (.proved tree)
        ↔ (∃ goal ∈ step.goal? current, (solver.search goal).result = .ok tree)
          ∧ ∀ limit ∈ out.limit, size tree ≤ limit)
      ∧ (∀ cause, result.outcome = .error cause
        ↔ cause = .storageFull
          ∧ ∃ tree,
              (∃ goal ∈ step.goal? current, (solver.search goal).result = .ok tree)
              ∧ ∃ limit ∈ out.limit, limit < size tree)
      ∧ (∀ ended, result.outcome = .ok ended
        → ∃ d, result.sunk emit sink = emit sink d ∧ d.span = step.span ∧ d.Tells ended)
      ∧ (∀ cause, result.outcome = .error cause → result.sunk emit sink = sink)
      ∧ (∀ tree, result.outcome = .ok (.proved tree)
        → result.output = out.push (solver.proofText out.coloring tree))
      ∧ (result.outcome = .ok .notFound ∨ result.outcome = .ok .malformed
        → result.output = out) := by
  intro result size
  have ends : solver.Ends step current out result := solver.ends_solve step current out
  refine ⟨?_, ?_, ?_, ?_, ?_, ?_, ?_, ?_⟩
  · rw [ends.outcome_eq_ok_iff]
    exact and_iff_left nofun
  · rw [ends.outcome_eq_ok_iff]
    exact and_iff_left nofun
  · intro tree
    rw [ends.outcome_eq_ok_iff, forall_printed?_proved, Output.hasRoom_eq_true_iff]
    rfl
  · intro cause
    simp only [size, ← Output.hasRoom_eq_false_iff]
    exact ends.outcome_eq_error_iff
  · intro ended outcome
    obtain ⟨d, told, place, tells⟩ := (ends.of_ok outcome).1.told
    refine ⟨d, ?_, place, tells⟩
    rw [SolveResult.sunk, told]
    rfl
  · intro cause outcome
    rw [SolveResult.sunk, ends.untold_of_error outcome]
    rfl
  · intro tree outcome
    exact (ends.of_ok outcome).2
  · rintro (outcome | outcome)
    · exact (ends.of_ok outcome).2
    · exact (ends.of_ok outcome).2

/-- The statement that the successor of a variable is a number, with a proof only for a number. -/
def successorIsNat : Judgment := Samples.isNat (Samples.succ (Samples.v "n"))

/-- The step is proved once the variable stands for zero, but not before; and no proof fits into one
byte, in which case the sink stays empty.
-/
theorem solve_agrees_of_successorIsNat
    : let solver : Solver := { book := Samples.nat }
      let step : SolveStep :=
        ⟨"successor", ⟨successorIsNat.term, some successorIsNat.family⟩, none⟩
      let zero := Substitution.singleton { name := "n" } Samples.zero
      let emit (sink : List Diagnostic) (d : Diagnostic) := sink ++ [d]
      let short := solver.solve step zero { limit := some 1 }
      (∃ tree, (solver.solve step zero {}).outcome = .ok (.proved tree))
      ∧ (solver.solve step Substitution.identity {}).outcome = .ok .notFound
      ∧ short.outcome = .error .storageFull
      ∧ short.sunk emit [] = [] := by
  have stopped : (search { book := Samples.nat } successorIsNat).result
      = .error (.exhausted successorIsNat 5 4 .searchSpace) := rfl
  intro solver step zero emit short
  have succeeds : (solver.search (Samples.isNat (Samples.numeral 1))).result.isOk = true := by
    decide
  obtain ⟨tree, found⟩ := Search.exists_of_isOk succeeds
  obtain ⟨_, _, proved, _⟩ := solve_agrees solver step zero {} emit []
  obtain ⟨_, unproved, _⟩ := solve_agrees solver step Substitution.identity {} emit []
  obtain ⟨_, _, _, failed, _, unsunk, _⟩ :=
    solve_agrees solver step zero { limit := some 1 } emit []
  have full : short.outcome = .error .storageFull := by
    have blank : "\n\n".utf8ByteSize = 2 := rfl
    refine (failed _).mpr ⟨rfl, tree, ⟨_, rfl, found⟩, 1, rfl, ?_⟩
    simp only [proofText, String.utf8ByteSize_append, blank]
    omega
  exact ⟨⟨tree, (proved tree).mpr ⟨⟨_, rfl, found⟩, nofun⟩⟩,
    unproved.mpr ⟨_, rfl, _, _, _, _, stopped⟩, full, unsunk _ full⟩

end Solver

end Backchain
