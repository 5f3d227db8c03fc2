import Backchain.Search

/-! The search one step at a time: what the first of several goals or of several rules leads to.
What holds over every single step holds over goals closed one after the other and over rules tried
one after the other; so no counter ever goes down.
-/

namespace Backchain

namespace Search

-----------------------------------------------------------------------------------------
-- Equations
-----------------------------------------------------------------------------------------

/-- Goes on from the end of an attempt, with its value or, if it failed, without one. A spent budget
ends what follows too.
-/
def proceed {α β : Type} (closed : α → Progress → Outcome β × Progress)
    (failed : Progress → Outcome β × Progress)
    : Outcome α × Progress → Outcome β × Progress
  | (.closed value, next) => closed value next
  | (.failed, next) => failed next
  | (.budgetSpent, next) => (.budgetSpent, next)

section

variable {close : Judgment → Progress → Outcome ProofTree × Progress} {budget : Option Nat}
  {goal : Judgment} {progress : Progress}

theorem closeAll_cons {rest : List Judgment}
    : closeAll close (goal :: rest) progress
      = proceed
          (fun tree next =>
            proceed (fun trees last => (.closed (tree :: trees), last))
              (fun last => (.failed, last)) (closeAll close rest next))
          (fun next => (.failed, next)) (close goal progress) := by
  rw [closeAll]
  rcases close goal progress with ⟨tree | _ | _, next⟩
  · dsimp only [proceed]
    rcases closeAll close rest next with ⟨trees | _ | _, last⟩ <;> rfl
  · rfl
  · rfl

variable {rule : Rule} {rest : List Rule}

theorem tryRules_of_ungrounded (ungrounded : rule.grounded = false)
    : tryRules close budget goal (rule :: rest) progress
      = tryRules close budget goal rest (progress.note (.skipped rule.name goal)) := by
  rw [tryRules, ungrounded]
  rfl

theorem tryRules_of_spent (grounded : rule.grounded = true)
    (spent : isSpent budget progress = true)
    : tryRules close budget goal (rule :: rest) progress = (.budgetSpent, progress) := by
  rw [tryRules, grounded, spent]
  rfl

theorem tryRules_of_mismatch (grounded : rule.grounded = true)
    (unspent : isSpent budget progress = false)
    (mismatch : rule.conclusion.term.match? goal.term = none)
    : tryRules close budget goal (rule :: rest) progress
      = tryRules close budget goal rest progress.countAttempt := by
  rw [tryRules, grounded, unspent, mismatch]
  rfl

theorem tryRules_of_match (grounded : rule.grounded = true)
    (unspent : isSpent budget progress = false) {s : Substitution}
    (matched : rule.conclusion.term.match? goal.term = some s)
    : tryRules close budget goal (rule :: rest) progress
      = proceed (fun children next => (.closed (.derived goal ⟨rule, s⟩ children), next))
          (fun next =>
            tryRules close budget goal rest (next.note (.backtracking rule.name goal)))
          (closeAll close (RuleInstance.mk rule s).premises
            (progress.countAttempt.countMatch.note (.trying rule.name goal s))) := by
  rw [tryRules, grounded, unspent, matched]
  dsimp only
  rcases closeAll close (RuleInstance.mk rule s).premises
    (progress.countAttempt.countMatch.note (.trying rule.name goal s)) with ⟨_ | _ | _, next⟩
    <;> rfl

end

-----------------------------------------------------------------------------------------
-- From single steps to whole attempts
-----------------------------------------------------------------------------------------

/-- Wherever an attempt starts, the stage at which it ends is related to that one. -/
def Reaches {α : Type} (reach : Progress → Progress → Prop)
    (attempt : Progress → Outcome α × Progress)
    : Prop :=
  ∀ progress : Progress, reach progress (attempt progress).2

end Search

/-- The goal that an event is about. -/
def SearchEvent.goal : SearchEvent → Judgment
  | .refused goal _
  | .started goal _
  | .depthExhausted goal
  | .skipped _ goal
  | .trying _ goal _
  | .backtracking _ goal
  | .found goal _ _
  | .gaveUp goal _ _ _ => goal

namespace Search

/-- A relation between earlier and later stages of a search that holds over every single step that
is taken on a goal of some kind.
-/
structure Onward (reach : Progress → Progress → Prop) (considered : Judgment → Prop) : Prop where
  refl : ∀ progress, reach progress progress
  trans : ∀ {first second third}, reach first second → reach second third → reach first third
  attempt : ∀ progress : Progress, reach progress progress.countAttempt
  attemptMatched : ∀ progress : Progress, reach progress progress.countAttempt.countMatch
  note
    : ∀ (progress : Progress) (event : SearchEvent), considered event.goal
      → reach progress (progress.note event)

namespace Onward

variable {reach : Progress → Progress → Prop} {considered : Judgment → Prop}
  (onward : Onward reach considered)

include onward

theorem reaches_pure {α : Type} (outcome : Outcome α)
    : Reaches reach (fun progress => (outcome, progress)) :=
  fun progress => onward.refl progress

theorem proceed {α β : Type} {closed : α → Progress → Outcome β × Progress}
    {failed : Progress → Outcome β × Progress} (onClosed : ∀ value, Reaches reach (closed value))
    (onFailed : Reaches reach failed) (ended : Outcome α × Progress)
    : reach ended.2 (Search.proceed closed failed ended).2 := by
  rcases ended with ⟨value | _ | _, next⟩
  · exact onClosed value next
  · exact onFailed next
  · exact onward.refl next

theorem reaches_proceed {α β : Type} {attempt : Progress → Outcome α × Progress}
    {closed : α → Progress → Outcome β × Progress} {failed : Progress → Outcome β × Progress}
    (first : Reaches reach attempt) (onClosed : ∀ value, Reaches reach (closed value))
    (onFailed : Reaches reach failed)
    : Reaches reach (fun progress => Search.proceed closed failed (attempt progress)) := by
  intro progress
  exact onward.trans (first progress) (onward.proceed onClosed onFailed (attempt progress))

variable {close : Judgment → Progress → Outcome ProofTree × Progress}
  (each : ∀ goal, considered goal → Reaches reach (close goal))

include each

/-- Goals closed one after the other lead onward if each does, by induction on the goals. -/
theorem reaches_closeAll {goals : List Judgment} (among : ∀ goal ∈ goals, considered goal)
    : Reaches reach (closeAll close goals) := by
  induction goals with
  | nil => exact onward.reaches_pure (.closed [])
  | cons goal rest ih =>
      intro progress
      rw [closeAll_cons]
      have first := each goal (among goal List.mem_cons_self)
      have others := ih fun other member => among other (List.mem_cons_of_mem goal member)
      have later (tree : ProofTree) := onward.reaches_proceed others
        (fun trees => onward.reaches_pure (.closed (tree :: trees))) (onward.reaches_pure .failed)
      exact onward.reaches_proceed first later (onward.reaches_pure .failed) progress

variable {budget : Option Nat} {goal : Judgment} (here : considered goal)

include here

/-- A rule that is tried leads onward from where it has been counted. -/
theorem reach_tryRules_cons {rule : Rule} {rest : List Rule}
    (premises : ∀ s, rule.grounded = true → rule.conclusion.term.match? goal.term = some s
      → ∀ premise ∈ (RuleInstance.mk rule s).premises, considered premise)
    (later : Reaches reach (tryRules close budget goal rest)) {progress : Progress}
    (grounded : rule.grounded = true) (unspent : isSpent budget progress = false)
    : let counted := progress.countAttempt
      let ended := tryRules close budget goal (rule :: rest) progress
      reach counted ended.2 ∨ reach counted.countMatch ended.2 := by
  cases matched : rule.conclusion.term.match? goal.term with
  | none =>
      rw [tryRules_of_mismatch grounded unspent matched]
      exact Or.inl (later progress.countAttempt)
  | some s =>
      rw [tryRules_of_match grounded unspent matched]
      have backtrack : Reaches reach fun next : Progress =>
          tryRules close budget goal rest (next.note (.backtracking rule.name goal)) := by
        intro next
        exact onward.trans (onward.note next (.backtracking rule.name goal) here) (later _)
      have tried := onward.reaches_proceed
        (onward.reaches_closeAll each (premises s grounded matched))
        (fun children => onward.reaches_pure (.closed (.derived goal ⟨rule, s⟩ children))) backtrack
      exact Or.inr (onward.trans (onward.note _ (.trying rule.name goal s) here) (tried _))

/-- Rules tried one after the other lead onward, by induction on the rules. -/
theorem reaches_tryRules {rules : List Rule}
    (premises : ∀ rule ∈ rules, ∀ s, rule.grounded = true
      → rule.conclusion.term.match? goal.term = some s
      → ∀ premise ∈ (RuleInstance.mk rule s).premises, considered premise)
    : Reaches reach (tryRules close budget goal rules) := by
  induction rules with
  | nil => exact onward.reaches_pure .failed
  | cons rule rest ih =>
      have first := premises rule List.mem_cons_self
      have later := ih fun other member => premises other (List.mem_cons_of_mem rule member)
      intro progress
      cases grounded : rule.grounded with
      | false =>
          rw [tryRules_of_ungrounded grounded]
          exact onward.trans (onward.note progress (.skipped rule.name goal) here) (later _)
      | true =>
          cases spent : isSpent budget progress with
          | true =>
              rw [tryRules_of_spent grounded spent]
              exact onward.refl progress
          | false =>
              rcases onward.reach_tryRules_cons each here first later grounded spent with
                tried | tried
              · exact onward.trans (onward.attempt progress) tried
              · exact onward.trans (onward.attemptMatched progress) tried

end Onward

end Search

-----------------------------------------------------------------------------------------
-- Counters only grow
-----------------------------------------------------------------------------------------

/-- No counter is above its counterpart. -/
structure SearchStats.AtMost (earlier later : SearchStats) : Prop where
  attempts : earlier.attempts ≤ later.attempts
  matched : earlier.matched ≤ later.matched
  maxDepth : earlier.maxDepth ≤ later.maxDepth

theorem SearchStats.AtMost.refl (stats : SearchStats) : stats.AtMost stats :=
  ⟨Nat.le_refl _, Nat.le_refl _, Nat.le_refl _⟩

theorem SearchStats.AtMost.trans {first second third : SearchStats}
    (left : first.AtMost second) (right : second.AtMost third)
    : first.AtMost third :=
  ⟨Nat.le_trans left.attempts right.attempts, Nat.le_trans left.matched right.matched,
    Nat.le_trans left.maxDepth right.maxDepth⟩

namespace Progress

@[simp] theorem stats_note (progress : Progress) (event : SearchEvent)
    : (progress.note event).stats = progress.stats :=
  rfl

@[simp] theorem stats_countAttempt (progress : Progress)
    : progress.countAttempt.stats
      = { progress.stats with attempts := progress.stats.attempts + 1 } :=
  rfl

@[simp] theorem stats_countMatch (progress : Progress)
    : progress.countMatch.stats = { progress.stats with matched := progress.stats.matched + 1 } :=
  rfl

@[simp] theorem stats_reachLevel (progress : Progress) (level : Nat)
    : (progress.reachLevel level).stats
      = { progress.stats with maxDepth := max progress.stats.maxDepth level } :=
  rfl

theorem atMost_countAttempt (progress : Progress)
    : progress.stats.AtMost progress.countAttempt.stats :=
  ⟨Nat.le_succ _, Nat.le_refl _, Nat.le_refl _⟩

theorem atMost_countMatch (progress : Progress)
    : progress.stats.AtMost progress.countMatch.stats :=
  ⟨Nat.le_refl _, Nat.le_succ _, Nat.le_refl _⟩

theorem atMost_reachLevel (progress : Progress) (level : Nat)
    : progress.stats.AtMost (progress.reachLevel level).stats :=
  ⟨Nat.le_refl _, Nat.le_refl _, Nat.le_max_left _ _⟩

end Progress

namespace Search

/-- Wherever an attempt starts, it ends with no counter lower. -/
def Grows {α : Type} (attempt : Progress → Outcome α × Progress) : Prop :=
  ∀ progress : Progress, progress.stats.AtMost (attempt progress).2.stats

/-- No single step lowers a counter. -/
theorem onward_atMost
    : Onward (fun earlier later => earlier.stats.AtMost later.stats) (fun _ => True) where
  refl progress := .refl progress.stats
  trans := .trans
  attempt := Progress.atMost_countAttempt
  attemptMatched progress :=
    progress.atMost_countAttempt.trans progress.countAttempt.atMost_countMatch
  note progress _ _ := .refl progress.stats

theorem grows_pure {α : Type} (outcome : Outcome α)
    : Grows (fun progress => (outcome, progress)) :=
  onward_atMost.reaches_pure outcome

theorem atMost_proceed {α β : Type} {closed : α → Progress → Outcome β × Progress}
    {failed : Progress → Outcome β × Progress} (onClosed : ∀ value, Grows (closed value))
    (onFailed : Grows failed) (ended : Outcome α × Progress)
    : ended.2.stats.AtMost (proceed closed failed ended).2.stats :=
  onward_atMost.proceed onClosed onFailed ended

theorem grows_proceed {α β : Type} {attempt : Progress → Outcome α × Progress}
    {closed : α → Progress → Outcome β × Progress} {failed : Progress → Outcome β × Progress}
    (grows : Grows attempt) (onClosed : ∀ value, Grows (closed value)) (onFailed : Grows failed)
    : Grows (fun progress => proceed closed failed (attempt progress)) :=
  onward_atMost.reaches_proceed grows onClosed onFailed

section

variable {close : Judgment → Progress → Outcome ProofTree × Progress}

theorem grows_closeAll (each : ∀ goal, Grows (close goal)) (goals : List Judgment)
    : Grows (closeAll close goals) :=
  onward_atMost.reaches_closeAll (fun goal _ => each goal) fun _ _ => trivial

variable {budget : Option Nat} {goal : Judgment} {rule : Rule} {rest : List Rule}

/-- A rule that is tried is counted. -/
theorem countAttempt_atMost_tryRules (each : ∀ goal, Grows (close goal))
    (later : Grows (tryRules close budget goal rest)) {progress : Progress}
    (grounded : rule.grounded = true) (unspent : isSpent budget progress = false)
    : progress.countAttempt.stats.AtMost
        (tryRules close budget goal (rule :: rest) progress).2.stats := by
  rcases onward_atMost.reach_tryRules_cons (fun goal _ => each goal) trivial
    (fun _ _ _ _ _ => trivial) later grounded unspent with tried | tried
  · exact tried
  · exact progress.countAttempt.atMost_countMatch.trans tried

theorem grows_tryRules (each : ∀ goal, Grows (close goal)) (goal : Judgment) (rules : List Rule)
    : Grows (tryRules close budget goal rules) :=
  onward_atMost.reaches_tryRules (fun goal _ => each goal) trivial (fun _ _ _ _ _ _ _ => trivial)

end

/-- Closing a goal lowers no counter, by induction on the levels left. -/
theorem grows_close (book : Rulebook) (budget : Option Nat) (remaining level : Nat)
    (goal : Judgment)
    : Grows (close book budget remaining level goal) := by
  induction remaining generalizing level goal with
  | zero =>
      intro progress
      exact .refl progress.stats
  | succ remaining ih =>
      intro progress
      rw [close]
      refine (progress.atMost_reachLevel level).trans ?_
      exact grows_tryRules (ih (level + 1)) goal (book.candidates goal.family) _

end Search

end Backchain
