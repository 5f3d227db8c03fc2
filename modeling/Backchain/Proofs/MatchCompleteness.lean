import Backchain.Proofs.MatchSoundness

/-! Matching finds a substitution whenever there is one that takes the pattern to the target, and
the one found has the same effect on the variables of the pattern. The terms of a substitution have
no index that points out of them, so no variable bound inside the target is in the way.
-/

namespace Backchain

/-- Every binding has the nameless form that `value` gives to its variable. -/
def VarMap.Agrees (found : VarMap Term) (value : Variable → Nameless) : Prop :=
  ∀ x t, found.get? x = some t → t.nameless = value x

namespace Term

theorem exists_bindOrCompare {found : VarMap Term} {value : Variable → Nameless} {x : Variable}
    {target : Term} (agrees : found.Agrees value) (equal : target.nameless = value x)
    : ∃ result, bindOrCompare found x target = some result ∧ result.Agrees value := by
  cases before : found.get? x with
  | some previous =>
      have same : previous.alphaEq target = true :=
        alphaEq_iff.mpr ((agrees x previous before).trans equal.symm)
      exact ⟨found, by simp [bindOrCompare, before, same], agrees⟩
  | none =>
      refine ⟨found.insert x target, by simp [bindOrCompare, before], ?_⟩
      intro y t known
      rw [VarMap.get?_insert] at known
      split at known
      · rename_i same
        cases known
        exact same ▸ equal
      · exact agrees y t known

/-- A variable matches whatever the replacement makes of it. -/
theorem exists_matchIn_var {pairs : BinderPairs} {found : VarMap Term}
    {value : Variable → Nameless} {x : Variable} {target : Term}
    (closed : ∀ y, (value y).ClosedAt 0) (agrees : found.Agrees value)
    (equal : ((Term.var x).namelessIn (pairs.map Prod.fst)).subst value
      = target.namelessIn (pairs.map Prod.snd))
    : ∃ result,
        (Term.var x).matchIn pairs target found = some result ∧ result.Agrees value := by
  unfold matchIn
  rw [BinderPairs.patternIndex?_eq]
  rw [namelessIn] at equal
  cases place : (pairs.map Prod.fst).idxOf? x with
  | some index =>
      rw [Nameless.resolve_eq_bound.mpr place, Nameless.subst] at equal
      cases target with
      | var y =>
          have same := Nameless.resolve_eq_bound.mp equal.symm
          exact ⟨found, by simp [BinderPairs.targetIndex?_eq, same], agrees⟩
      | app head args => simp [namelessIn] at equal
      | abs binder body => simp [namelessIn] at equal
  | none =>
      rw [Nameless.resolve_of_not_mem (List.idxOf?_eq_none_iff.mp place), Nameless.subst] at equal
      -- the replacement has no index that points out of it, so the target mentions no binder
      have apart : ∀ y ∈ target.freeVars, y ∉ pairs.map Prod.snd := by
        have inside := closed x
        rw [equal] at inside
        exact fun y hy => (closedAt_namelessIn_append [] _).mp inside y hy List.not_mem_nil
      rw [namelessIn_of_disjoint apart] at equal
      simp only [BinderPairs.escapes_eq_false.mpr apart, Bool.false_eq_true, if_false]
      exact exists_bindOrCompare agrees equal.symm

/-- Argument lists match if each pattern matches, by induction on the patterns. -/
theorem exists_matchAll {pairs : BinderPairs} {found : VarMap Term}
    {value : Variable → Nameless} {patterns targets : List Term}
    (each : ∀ pattern ∈ patterns, ∀ (target : Term) (found : VarMap Term), found.Agrees value
      → (pattern.namelessIn (pairs.map Prod.fst)).subst value
        = target.namelessIn (pairs.map Prod.snd)
      → ∃ result, pattern.matchIn pairs target found = some result ∧ result.Agrees value)
    (agrees : found.Agrees value)
    (equal : Nameless.substAll value (namelessAll (pairs.map Prod.fst) patterns)
      = namelessAll (pairs.map Prod.snd) targets)
    : ∃ result, matchAll pairs patterns targets found = some result ∧ result.Agrees value := by
  induction patterns generalizing targets found with
  | nil =>
      cases targets with
      | nil => exact ⟨found, rfl, agrees⟩
      | cons target targets => simp [namelessAll, Nameless.substAll] at equal
  | cons pattern patterns ih =>
      cases targets with
      | nil => simp [namelessAll, Nameless.substAll] at equal
      | cons target targets =>
          simp only [namelessAll, Nameless.substAll, List.cons.injEq] at equal
          obtain ⟨middle, first, agreesFirst⟩ :=
            each pattern List.mem_cons_self target found agrees equal.1
          obtain ⟨result, rest, agreesRest⟩ :=
            ih (fun other member => each other (List.mem_cons_of_mem _ member)) agreesFirst equal.2
          exact ⟨result, by simp [matchAll, first, rest], agreesRest⟩

/-- A pattern matches a target that it is taken to, by induction on the pattern. -/
theorem exists_matchIn {pairs : BinderPairs} {found : VarMap Term}
    {value : Variable → Nameless} {pattern target : Term}
    (closed : ∀ y, (value y).ClosedAt 0) (agrees : found.Agrees value)
    (equal : (pattern.namelessIn (pairs.map Prod.fst)).subst value
      = target.namelessIn (pairs.map Prod.snd))
    : ∃ result, pattern.matchIn pairs target found = some result ∧ result.Agrees value := by
  induction pattern generalizing pairs target found with
  | var x => exact exists_matchIn_var closed agrees equal
  | app head args ih =>
      rw [namelessIn, Nameless.subst] at equal
      cases target with
      | var y => exact absurd equal.symm Nameless.resolve_ne_app
      | app other targets =>
          rw [namelessIn, Nameless.app.injEq] at equal
          obtain ⟨rfl, arguments⟩ := equal
          simp only [matchIn, if_true]
          exact exists_matchAll (fun arg member _ _ known => ih arg member known) agrees arguments
      | abs other body => simp [namelessIn] at equal
  | abs binder body ih =>
      rw [namelessIn, Nameless.subst] at equal
      cases target with
      | var y => exact absurd equal.symm Nameless.resolve_ne_abs
      | app other targets => simp [namelessIn] at equal
      | abs other target =>
          rw [namelessIn, Nameless.abs.injEq] at equal
          simp only [matchIn]
          exact ih agrees equal

end Term

theorem Substitution.closedAt_nameless (s : Substitution) (x : Variable)
    : (s.nameless x).ClosedAt 0 := by
  rw [← nameless_apply_var]
  exact Term.closedAt_nameless _

/-- Matching succeeds if some replacement of the free variables takes the pattern to the target, be
it that of a substitution or not.
-/
theorem Term.exists_match?_of_subst {pattern target : Term} {value : Variable → Nameless}
    (closed : ∀ y, (value y).ClosedAt 0) (taken : pattern.nameless.subst value = target.nameless)
    : ∃ found, pattern.match? target = some found := by
  have agrees : VarMap.empty.Agrees value := by
    intro x t known
    cases known
  have equal : (pattern.namelessIn (List.map Prod.fst ([] : BinderPairs))).subst value
      = target.namelessIn (List.map Prod.snd ([] : BinderPairs)) := taken
  obtain ⟨result, matched, _⟩ := exists_matchIn closed agrees equal
  exact ⟨_, by rw [match?, matched, Option.map_some]⟩

/-- Matching succeeds on every instance of the pattern. -/
theorem Term.exists_match? {pattern target : Term} {s : Substitution}
    (same : (s.apply pattern).alphaEq target = true)
    : ∃ found, pattern.match? target = some found := by
  rw [alphaEq_iff, Substitution.nameless_apply] at same
  exact exists_match?_of_subst s.closedAt_nameless same

/-- All substitutions that take a pattern to one target agree on the pattern's free variables, so
the one that matching finds stands for all of them.
-/
theorem Term.nameless_eq_of_match? {pattern target : Term} {s found : Substitution}
    (matched : pattern.match? target = some found)
    (same : (s.apply pattern).alphaEq target = true) {x : Variable} (hx : x ∈ pattern.freeVars)
    : found.nameless x = s.nameless x := by
  have equal : (found.apply pattern).nameless = (s.apply pattern).nameless :=
    (alphaEq_iff.mp (alphaEq_of_match? matched)).trans (alphaEq_iff.mp same).symm
  exact Substitution.nameless_apply_inj.mp equal x hx

theorem Substitution.nameless_of_unbound {s : Substitution} {x : Variable}
    (unbound : x ∉ s.domain)
    : s.nameless x = .free x := by
  rw [nameless, get?_of_unbound unbound]
  rfl

theorem Term.mem_freeVars_of_match? {pattern target : Term} {s : Substitution}
    (matched : pattern.match? target = some s) {x : Variable} (bound : x ∈ s.domain)
    : x ∈ pattern.freeVars := by
  obtain ⟨found, established, rfl⟩ := match?_cases matched
  obtain ⟨t, value⟩ := Substitution.mem_domain_iff.mp bound
  have collected := (Substitution.get?_ofList_entries.mp value).1
  rcases established.added x t collected with earlier | ⟨⟨each, member, hx⟩, _⟩
  · cases earlier
  · exact List.mem_singleton.mp member ▸ hx

/-- A substitution that takes the pattern to the target and binds free variables of the pattern only
stands for the same terms as the match, also outside the pattern.
-/
theorem Term.nameless_match?_eq {pattern target : Term} {s found : Substitution}
    (matched : pattern.match? target = some found)
    (same : (s.apply pattern).alphaEq target = true)
    (inside : ∀ x ∈ s.domain, x ∈ pattern.freeVars)
    : found.nameless = s.nameless := by
  funext x
  by_cases hx : x ∈ pattern.freeVars
  · exact nameless_eq_of_match? matched same hx
  · have left : x ∉ found.domain := fun bound => hx (mem_freeVars_of_match? matched bound)
    have right : x ∉ s.domain := fun bound => hx (inside x bound)
    rw [Substitution.nameless_of_unbound left, Substitution.nameless_of_unbound right]

/-- Matching is complete and its answer is unique: a pattern that some substitution takes to the
target matches it, and the substitution found agrees with that one on the pattern's free variables.
-/
theorem Term.match?_complete {pattern target : Term} {s : Substitution}
    (same : (s.apply pattern).alphaEq target = true)
    : ∃ found,
        pattern.match? target = some found
        ∧ ∀ x ∈ pattern.freeVars,
            (found.apply (.var x)).alphaEq (s.apply (.var x)) = true := by
  obtain ⟨found, matched⟩ := exists_match? same
  refine ⟨found, matched, fun x hx => ?_⟩
  rw [alphaEq_iff, Substitution.nameless_apply_var, Substitution.nameless_apply_var]
  exact nameless_eq_of_match? matched same hx

/-- The target has other bound names than the instance of the pattern, one variable occurs below
different binders, and another takes the variable of its own name.
-/
theorem Term.match?_complete_of_renamed_target
    : let x : Variable := ⟨"x", 0⟩
      let y : Variable := ⟨"y", 0⟩
      let m : Variable := ⟨"m", 0⟩
      let n : Variable := ⟨"n", 0⟩
      let pattern : Term :=
        .app "f" [.abs x (.app "g" [.var x, .var m, .var n]), .abs y (.abs x (.var m)), .var n]
      let s := Substitution.singleton m (.app "h" [.var x, .abs x (.var x)])
      let target : Term :=
        .app "f"
          [ .abs y (.app "g" [.var y, .app "h" [.var x, .abs n (.var n)], .var n]),
            .abs m (.abs m (.app "h" [.var x, .abs y (.var y)])),
            .var n ]
      (s.apply pattern).alphaEq target = true
        ∧ ∃ found,
            pattern.match? target = some found
            ∧ ∀ z ∈ pattern.freeVars,
                (found.apply (.var z)).alphaEq (s.apply (.var z)) = true := by
  intro x y m n pattern s target
  have same : (s.apply pattern).alphaEq target = true := by decide
  exact ⟨same, match?_complete same⟩

end Backchain
