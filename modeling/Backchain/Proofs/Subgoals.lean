import Backchain.Proofs.FreeVariables
import Backchain.Proofs.Instantiation
import Backchain.Proofs.SearchSimulation

/-! The goals that a search meets on its way are well-formed and have no free variables but those of
the goal it started from, in the branches that it gives up as well. Only the first goal is checked;
checking every goal again would change nothing.
-/

namespace Backchain

/-- A judgment has the shape of its family, and its free variables are among those of a goal. -/
structure Judgment.Within (j goal : Judgment) : Prop where
  valid : j.Valid
  closed : ∀ x ∈ j.freeVars, x ∈ goal.freeVars

theorem Judgment.Within.trans {i j k : Judgment} (inner : i.Within j) (outer : j.Within k)
    : i.Within k :=
  ⟨inner.valid, fun x hx => outer.closed x (inner.closed x hx)⟩

/-- A premise of a grounded rule stays within the judgment that the rule's instance concludes. What
is put in for a variable of the premise is also put in for that variable in the conclusion.
-/
theorem Rule.within_of_alphaEq {rule : Rule} (grounded : rule.grounded = true) {s : Substitution}
    {goal : Judgment} (concludes : (s.apply rule.conclusion.term).alphaEq goal.term = true)
    {premise : Judgment} (member : premise ∈ rule.premises)
    : (premise.instantiate s).Within goal := by
  refine ⟨(rule.premises_valid premise member).instantiate s, fun y hy => ?_⟩
  obtain ⟨x, hx, put⟩ := Substitution.mem_freeVars_apply.mp hy
  have concluded : y ∈ (s.apply rule.conclusion.term).freeVars :=
    Substitution.mem_freeVars_apply.mpr ⟨x, mem_freeVars_conclusion grounded member hx, put⟩
  exact (Term.mem_freeVars_of_alphaEq concludes).mp concluded

theorem Rule.premises_within {rule : Rule} (grounded : rule.grounded = true) {s : Substitution}
    {goal root : Judgment} (concludes : (s.apply rule.conclusion.term).alphaEq goal.term = true)
    (within : goal.Within root)
    : ∀ premise ∈ (RuleInstance.mk rule s).premises, premise.Within root := by
  intro instantiated member
  obtain ⟨premise, premised, rfl⟩ := List.mem_map.mp member
  exact (within_of_alphaEq grounded concludes premised).trans within

/-- The nodes of a derivation stay within whatever its root is within, by induction on the tree. -/
theorem ProofTree.Throughout.within {book : Rulebook} {tree : ProofTree}
    (each : tree.Throughout book.Justifies) {root : Judgment} (within : tree.judgment.Within root)
    : tree.Throughout (fun node _ _ => node.Within root) := by
  induction each with
  | @derived goal inst children here _ ih =>
      refine .derived within fun child member => ih child member ?_
      have concludes := (Judgment.alphaEq_iff.mp here.conclusion).1
      have premised : child.judgment ∈ inst.premises := by
        rw [here.premises]
        exact List.mem_map_of_mem member
      exact Rule.premises_within here.grounded concludes within _ premised

namespace Search

/-- What is done when the search is called on a goal with a number of levels left. It is given what
the search does with that goal.
-/
abbrev Entry : Type :=
  Nat → Judgment → (Progress → Outcome ProofTree × Progress)
    → Progress → Outcome ProofTree × Progress

/-- Closes a goal as the search does, but for what is done at every call. -/
def closeWith (entry : Entry) (book : Rulebook) (budget : Option Nat)
    : Nat → Nat → Judgment → Progress → Outcome ProofTree × Progress
  | 0, _, goal, progress =>
      entry 0 goal (fun next => (.failed, next.note (.depthExhausted goal))) progress
  | remaining + 1, level, goal, progress =>
      entry (remaining + 1) goal
        (fun next =>
          tryRules (closeWith entry book budget remaining (level + 1)) budget goal
            (book.candidates goal.family) (next.reachLevel level))
        progress

/-- With nothing done at its calls it is the search itself, by induction on the levels. -/
theorem closeWith_nothing (book : Rulebook) (budget : Option Nat)
    : closeWith (fun _ _ proceed => proceed) book budget = close book budget := by
  funext remaining
  induction remaining with
  | zero => rfl
  | succ remaining ih =>
      funext level goal progress
      rw [closeWith, close, ih]

/-- The run of such a search from a goal. -/
def runWith (entry : Entry) (book : Rulebook) (budget : Option Nat) (goal : Judgment)
    (depthBound : Nat)
    : SearchRun :=
  finish goal depthBound (closeWith entry book budget depthBound 1 goal {})

/-- Notes the goal of every call. -/
def noteCall : Entry :=
  fun remaining goal proceed progress => proceed (progress.note (.started goal remaining))

/-- Checks the goal of every call again, and goes another way with a malformed one. -/
def revalidate
    (refuse : Judgment → MalformedJudgment → Progress → Outcome ProofTree × Progress)
    : Entry :=
  fun _ goal proceed progress =>
    match goal.validate with
    | .ok () => proceed progress
    | .error cause => refuse goal cause progress

/-- On goals within another, the search goes on as if nothing had been done. -/
def Entry.Harmless (entry : Entry) (root : Judgment) : Prop :=
  ∀ remaining (goal : Judgment) proceed progress, goal.Within root
    → ∃ next : Progress,
        next.stats = progress.stats ∧ entry remaining goal proceed progress = proceed next

theorem harmless_noteCall (root : Judgment) : noteCall.Harmless root := by
  intro remaining goal proceed progress _
  exact ⟨progress.note (.started goal remaining), rfl, rfl⟩

theorem harmless_revalidate
    (refuse : Judgment → MalformedJudgment → Progress → Outcome ProofTree × Progress)
    (root : Judgment)
    : (revalidate refuse).Harmless root := by
  intro remaining goal proceed progress within
  have valid : goal.validate = .ok () := within.valid
  exact ⟨progress, rfl, by rw [revalidate, valid]⟩

/-- What is harmless on goals within another does not show when such a goal is closed, by induction
on the levels. The calls that it makes are on goals within the other again.
-/
theorem alike_closeWith {entry : Entry} {root : Judgment} (harmless : entry.Harmless root)
    (book : Rulebook) (budget : Option Nat) (remaining level : Nat) {goal : Judgment}
    (within : goal.Within root) (left right : Progress) (stats : left.stats = right.stats)
    : Alike Eq (closeWith entry book budget remaining level goal left)
        (close book budget remaining level goal right) := by
  induction remaining generalizing level goal left right with
  | zero =>
      obtain ⟨next, kept, entered⟩ := harmless 0 goal _ left within
      rw [closeWith, entered]
      exact .failed (kept.trans stats)
  | succ remaining ih =>
      let same (goal target : Judgment) : Prop := goal = target ∧ goal.Within root
      have each : ∀ (goal target : Judgment) (left right : Progress), same goal target
          → left.stats = right.stats
          → Alike Eq (closeWith entry book budget remaining (level + 1) goal left)
              (close book budget remaining (level + 1) target right) := by
        intro goal target left right goals stats
        rw [← goals.1]
        exact ih (level + 1) goals.2 left right stats
      have candidates : ∀ rule ∈ book.candidates goal.family, rule.Corresponds same Eq rule := by
        intro rule _
        refine rule.corresponds_self (fun _ _ goals => goals.1) ?_
        intro goal s grounded goals matched premise member
        exact ⟨rfl, Rule.premises_within grounded (Term.alphaEq_of_match? matched) goals.2 premise
          member⟩
      have inStep := Rule.inStep_of_forall₂ (List.forall₂_same.mpr candidates)
      obtain ⟨next, kept, entered⟩ := harmless (remaining + 1) goal _ left within
      rw [closeWith, entered]
      exact alike_tryRules each budget ⟨rfl, within⟩ inStep _ _ (by simp [kept, stats])

/-- What is harmless on goals within the goal of a search changes neither result nor counters. -/
theorem runWith_of_harmless {entry : Entry} {goal : Judgment} (harmless : entry.Harmless goal)
    (valid : goal.Valid) (book : Rulebook) (budget : Option Nat) (depthBound : Nat)
    : let plain := run book budget (.unproved goal) depthBound
      let entered := runWith entry book budget goal depthBound
      entered.result = plain.result ∧ entered.stats = plain.stats := by
  rw [run_of_valid valid]
  have within : goal.Within goal := ⟨valid, fun _ hx => hx⟩
  exact finish_of_alike goal depthBound
    (alike_closeWith harmless book budget depthBound 1 within _ _ rfl)

end Search

/-- Whatever has happened so far was about judgments of which something holds. -/
def Progress.About (holds : Judgment → Prop) (progress : Progress) : Prop :=
  ∀ event ∈ progress.events, holds event.goal

theorem Progress.About.note {holds : Judgment → Prop} {progress : Progress}
    (before : progress.About holds) {event : SearchEvent} (held : holds event.goal)
    : (progress.note event).About holds := by
  intro noted member
  rcases Array.mem_push.mp member with earlier | rfl
  · exact before noted earlier
  · exact held

namespace Search

/-- No single step that is taken on such a judgment is about another one. -/
theorem onward_about {holds considered : Judgment → Prop} (held : ∀ j, considered j → holds j)
    : Onward (fun earlier later => earlier.About holds → later.About holds) considered where
  refl _ before := before
  trans inner outer before := outer (inner before)
  attempt _ before := before
  attemptMatched _ before := before
  note _ event here before := before.note (held event.goal here)

section

variable {book : Rulebook} {holds : Judgment → Prop} {allowed : Nat → Judgment → Prop}
  (held : ∀ levels goal, allowed levels goal → holds goal)
  (fewer : ∀ levels goal, allowed (levels + 1) goal → allowed levels goal)
  (premises : ∀ levels goal, allowed (levels + 1) goal
    → ∀ rule ∈ book.toList, ∀ s, rule.grounded = true
    → rule.conclusion.term.match? goal.term = some s
    → ∀ premise ∈ (RuleInstance.mk rule s).premises, allowed levels premise)

include held fewer premises

/-- Something holds of all goals that a search is called on if it holds of the goals that are
allowed with so many levels left, and those are led back to goals that are allowed with one level
less, by induction on the levels.
-/
theorem about_closeWith_noteCall (budget : Option Nat) {remaining : Nat} (level : Nat)
    {goal : Judgment} (here : allowed remaining goal) (progress : Progress)
    (before : progress.About holds)
    : (closeWith noteCall book budget remaining level goal progress).2.About holds := by
  induction remaining generalizing level goal progress with
  | zero =>
      rw [closeWith, noteCall]
      have called : (progress.note (.started goal 0)).About holds := before.note (held 0 goal here)
      exact called.note (held 0 goal here)
  | succ remaining ih =>
      rw [closeWith, noteCall]
      have called : (progress.note (.started goal (remaining + 1))).About holds :=
        before.note (held (remaining + 1) goal here)
      have each : ∀ inner : Judgment, allowed remaining inner
          → Reaches (fun earlier later => earlier.About holds → later.About holds)
              (closeWith noteCall book budget remaining (level + 1) inner) :=
        fun _ inside progress => ih (level + 1) inside progress
      refine (onward_about (held remaining)).reaches_tryRules each (fewer remaining goal here) ?_ _
        called
      intro rule candidate
      exact premises remaining goal here rule (Rulebook.mem_candidates.mp candidate).1

variable (holds allowed)

theorem about_runWith_noteCall (budget : Option Nat) {goal : Judgment} {depthBound : Nat}
    (here : allowed depthBound goal)
    : ∀ event ∈ (runWith noteCall book budget goal depthBound).events, holds event.goal := by
  have ended := about_closeWith_noteCall held fewer premises budget 1 here {} nofun
  have root : holds goal := held depthBound goal here
  rw [runWith]
  generalize closeWith noteCall book budget depthBound 1 goal {} = last at ended
  rcases last with ⟨_ | _ | _, progress⟩
  all_goals
    intro event member
    rcases Array.mem_push.mp member with earlier | rfl
    · exact ended event earlier
    · exact root

end

/-- Whatever goal a search is called on, at any depth and in branches that are given up, is
well-formed and has its free variables among those of the goal that the search started from: noting
every call changes neither result nor counters and notes no other goals. The nodes of a proof that
is returned are such goals too, and checking the goal of every call again changes neither result nor
counters, whatever would be done with a malformed one.
-/
theorem run_stays_within (book : Rulebook) (budget : Option Nat) {goal : Judgment}
    (depthBound : Nat) (valid : goal.Valid)
    : let plain := run book budget (.unproved goal) depthBound
      let noted := runWith noteCall book budget goal depthBound
      closeWith (fun _ _ proceed => proceed) book budget = close book budget
      ∧ (noted.result = plain.result
        ∧ noted.stats = plain.stats
        ∧ ∀ event ∈ noted.events, event.goal.Within goal)
      ∧ (∀ tree, plain.result = .ok tree → tree.Throughout (fun node _ _ => node.Within goal))
      ∧ ∀ refuse,
          let checked := runWith (revalidate refuse) book budget goal depthBound
          checked.result = plain.result ∧ checked.stats = plain.stats := by
  intro plain noted
  have within : goal.Within goal := ⟨valid, fun _ hx => hx⟩
  obtain ⟨results, stats⟩ :=
    runWith_of_harmless (harmless_noteCall goal) valid book budget depthBound
  have premises : ∀ (_ : Nat) (inner : Judgment), inner.Within goal
      → ∀ rule ∈ book.toList, ∀ s, rule.grounded = true
      → rule.conclusion.term.match? inner.term = some s
      → ∀ premise ∈ (RuleInstance.mk rule s).premises, premise.Within goal := by
    intro _ inner inside rule _ s grounded matched
    exact Rule.premises_within grounded (Term.alphaEq_of_match? matched) inside
  have calls : ∀ event ∈ noted.events, event.goal.Within goal :=
    about_runWith_noteCall (fun j => j.Within goal) (fun _ j => j.Within goal)
      (fun _ _ inside => inside) (fun _ _ inside => inside) premises budget within
  refine ⟨closeWith_nothing book budget, ⟨results, stats, calls⟩, fun tree found => ?_,
    fun refuse => ?_⟩
  · obtain ⟨judgment, each, _⟩ := throughout_of_run found
    exact each.within (judgment ▸ within)
  · exact runWith_of_harmless (harmless_revalidate refuse goal) valid book budget depthBound

/-- One added to a constant function, whose value is named like a variable of the rules. -/
def openSum : Judgment :=
  Samples.plus (Samples.numeral 1) (.abs ⟨"x", 0⟩ (Samples.v "n"))
    (Samples.succ (.abs ⟨"y", 0⟩ (Samples.v "n")))

theorem run_stays_within_of_openSum
    : (∃ tree,
        (run Samples.addition none (.unproved openSum) 2).result = .ok tree
        ∧ tree.Throughout (fun node _ _ => node.Within openSum))
      ∧ let goal := Samples.isEven (Samples.succ (Samples.succ (Samples.v "n")))
        let noted := runWith noteCall Samples.even none goal 2
        noted.result.isOk = false
        ∧ noted.events.toList.countP (fun event => event matches .started _ _) = 6
        ∧ ∀ event ∈ noted.events, event.goal.Within goal := by
  constructor
  · have succeeds : (run Samples.addition none (.unproved openSum) 2).result.isOk = true := by
      decide
    obtain ⟨tree, found⟩ := exists_of_isOk succeeds
    have valid : openSum.Valid := rfl
    obtain ⟨_, _, nodes, _⟩ := run_stays_within Samples.addition none 2 valid
    exact ⟨tree, found, nodes tree found⟩
  · intro goal noted
    have valid : goal.Valid := rfl
    obtain ⟨_, ⟨_, _, calls⟩, _⟩ := run_stays_within Samples.even none 2 valid
    exact ⟨by decide, by decide, calls⟩

end Search

end Backchain
