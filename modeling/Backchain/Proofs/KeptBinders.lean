import Backchain.Proofs.CaptureAvoidance

/-! Binders that keep their names. A substitution renames a binder only where a term put in below it
mentions it; everywhere else the result is that of plain replacement, name for name. Bindings of
variables that are not free in a term have no part in this, whatever they mention.
-/

namespace Backchain

namespace Term

mutual
/-- The variables that the binders of a term bind, outer binders first. -/
def binders : Term → List Variable
  | .var _ => []
  | .app _ args => bindersAll args
  | .abs binder body => binder :: body.binders

/-- The variables bound in the terms of a list. -/
def bindersAll : List Term → List Variable
  | [] => []
  | t :: rest => t.binders ++ bindersAll rest
end

theorem mem_bindersAll {x : Variable} {ts : List Term}
    : x ∈ bindersAll ts ↔ ∃ t ∈ ts, x ∈ t.binders := by
  induction ts with
  | nil => simp [bindersAll]
  | cons t rest ih => simp [bindersAll, ih]

end Term

namespace Substitution

/-- The substitution that leaves one more variable alone. -/
def without (s : Substitution) (x : Variable) : Substitution := ⟨s.bindings.erase x⟩

theorem get?_without (s : Substitution) (x y : Variable)
    : (s.without x).get? y = if y = x then none else s.get? y :=
  VarMap.get?_erase s.bindings x y

mutual
/-- Replaces free occurrences and keeps every binder. A binder takes the binding of its own variable
away, and captures what is put in below it.
-/
def replaceNaively (s : Substitution) : Term → Term
  | .var x => (s.get? x).getD (.var x)
  | .app head args => .app head (replaceAllNaively s args)
  | .abs binder body => .abs binder (replaceNaively (s.without binder) body)

/-- Replaces free occurrences in every term of a list. -/
def replaceAllNaively (s : Substitution) : List Term → List Term
  | [] => []
  | t :: rest => replaceNaively s t :: replaceAllNaively s rest
end

theorem replaceAllNaively_eq_map (s : Substitution) (ts : List Term)
    : s.replaceAllNaively ts = ts.map s.replaceNaively := by
  induction ts with
  | nil => rfl
  | cons t rest ih => simp [replaceAllNaively, ih]

-----------------------------------------------------------------------------------------
-- Only the bindings of free variables count
-----------------------------------------------------------------------------------------

/-- Substitutions that agree on the variables free below a binder are the same there. -/
theorem below_congr {s o : Substitution} {binder : Variable} {body : Term}
    (agree : ∀ x ∈ (Term.abs binder body).freeVars, s.get? x = o.get? x)
    : s.below binder body.freeVars = o.below binder body.freeVars := by
  have bindings : (s.below binder body.freeVars).bindings
      = (o.below binder body.freeVars).bindings := by
    refine VarMap.ext_get? fun x => ?_
    have lookup := s.get?_below binder body.freeVars x
    have other := o.get?_below binder body.freeVars x
    by_cases inside : x ≠ binder ∧ x ∈ body.freeVars
    · rw [if_pos inside] at lookup other
      exact lookup.trans ((agree x (Term.mem_freeVars_abs.mpr inside)).trans other.symm)
    · rw [if_neg inside] at lookup other
      exact lookup.trans other.symm
  exact congrArg Substitution.mk bindings

/-- Substitutions that agree on the free variables of a term have one result, with the same bound
names, by induction on the term.
-/
theorem apply_congr {s o : Substitution} {t : Term}
    (agree : ∀ x ∈ t.freeVars, s.get? x = o.get? x)
    : s.apply t = o.apply t := by
  induction t with
  | var x => rw [apply_var, apply_var, agree x (Term.mem_freeVars_var.mpr rfl)]
  | app head args ih =>
      rw [apply, apply, applyAll_eq_map, applyAll_eq_map]
      refine congrArg (Term.app head) (List.map_congr_left fun arg member => ?_)
      exact ih arg member fun x hx => agree x (Term.mem_freeVars_app.mpr ⟨arg, member, hx⟩)
  | abs binder body _ => rw [apply, apply, below_congr agree]

theorem apply_of_unbound {s : Substitution} {t : Term} (unbound : ∀ x ∈ t.freeVars, x ∉ s.domain)
    : s.apply t = t := by
  have agree : ∀ x ∈ t.freeVars, s.get? x = identity.get? x :=
    fun x hx => get?_of_unbound (unbound x hx)
  rw [apply_congr agree, apply_of_isIdentity rfl]

-----------------------------------------------------------------------------------------
-- Where nothing is captured
-----------------------------------------------------------------------------------------

/-- No binder of a term is free in a term that a substitution has for a free variable. -/
def Spares (s : Substitution) (t : Term) : Prop :=
  ∀ binder ∈ t.binders, ∀ x ∈ t.freeVars, ∀ u, s.get? x = some u → binder ∉ u.freeVars

instance (s : Substitution) (t : Term) : Decidable (s.Spares t) :=
  decidable_of_iff
    (∀ binder ∈ t.binders, ∀ x ∈ t.freeVars.toList, ∀ u ∈ s.get? x, binder ∉ u.freeVars)
    (by simp only [Spares, VarSet.mem_toList, Option.mem_def])

theorem Spares.mentions_below {s : Substitution} {binder : Variable} {body : Term}
    (spares : s.Spares (.abs binder body))
    : (s.below binder body.freeVars).mentions binder = false := by
  rw [← Bool.not_eq_true, mentions_iff]
  intro mentioned
  obtain ⟨x, u, found, hu⟩ := mentioned
  obtain ⟨inside, bound⟩ := get?_below_eq_some.mp found
  have outermost : binder ∈ (Term.abs binder body).binders := List.mem_cons_self
  exact spares binder outermost x (Term.mem_freeVars_abs.mpr inside) u bound hu

/-- Below a binder there is still no capture, since the binder's own variable is left alone. -/
theorem Spares.without {s : Substitution} {binder : Variable} {body : Term}
    (spares : s.Spares (.abs binder body))
    : (s.without binder).Spares body := by
  intro inner member x hx u bound
  rw [get?_without] at bound
  split at bound
  · cases bound
  · rename_i other
    have inside : inner ∈ (Term.abs binder body).binders := List.mem_cons_of_mem binder member
    exact spares inner inside x (Term.mem_freeVars_abs.mpr ⟨other, hx⟩) u bound

/-- Without capture a substitution is plain replacement, by induction on the term. Below a binder
the substitution is cut down to the free variables of the body, which changes nothing there.
-/
theorem Spares.apply_eq {s : Substitution} {t : Term} (spares : s.Spares t)
    : s.apply t = s.replaceNaively t := by
  induction t generalizing s with
  | var x => rw [apply, replaceNaively]
  | app head args ih =>
      rw [apply, replaceNaively, applyAll_eq_map, replaceAllNaively_eq_map]
      refine congrArg (Term.app head) (List.map_congr_left fun arg member => ?_)
      refine ih arg member fun binder inside x hx => ?_
      exact spares binder (Term.mem_bindersAll.mpr ⟨arg, member, inside⟩) x
        (Term.mem_freeVars_app.mpr ⟨arg, member, hx⟩)
  | abs binder body ih =>
      have agree : ∀ x ∈ body.freeVars,
          (s.below binder body.freeVars).get? x = (s.without binder).get? x := by
        intro x hx
        rw [get?_below, get?_without]
        by_cases same : x = binder <;> simp [same, hx]
      calc s.apply (.abs binder body)
          = .abs binder ((s.below binder body.freeVars).apply body) :=
            (enters_below spares.mentions_below).applied
        _ = .abs binder ((s.without binder).apply body) := by rw [apply_congr agree]
        _ = .abs binder ((s.without binder).replaceNaively body) := by rw [ih spares.without]
        _ = s.replaceNaively (.abs binder body) := by rw [replaceNaively]

/-- Binders are renamed only when needed. If no binder of a term is free in a term put in for one of
its free variables, the result is that of plain replacement, down to the names and stamps of the
binders; and if no free variable of the term is in the domain, the term stays as it is.
-/
theorem apply_keeps_binders (s : Substitution) (t : Term)
    : ((∀ binder ∈ t.binders, ∀ x ∈ t.freeVars, ∀ u, s.get? x = some u → binder ∉ u.freeVars)
        → s.apply t = s.replaceNaively t)
      ∧ ((∀ x ∈ t.freeVars, x ∉ s.domain) → s.apply t = t) :=
  ⟨fun spares => Spares.apply_eq spares, apply_of_unbound⟩

/-- Two bindings mention the inner binder `y`, but one of them is for the outer binder and the other
for a variable that is not free in the term.
-/
theorem apply_keeps_binders_of_irrelevant_bindings
    : let x : Variable := ⟨"x", 0⟩
      let y : Variable := ⟨"y", 2⟩
      let z : Variable := ⟨"z", 0⟩
      let w : Variable := ⟨"w", 0⟩
      let s := ofList [(x, .var y), (w, .var y), (z, .app "g" [.var w, .abs y (.var y)])]
      let t : Term := .abs x (.abs y (.app "f" [.var x, .var y, .var z]))
      let closed : Term := .abs x (.abs w (.app "f" [.var w, .var x]))
      s.Spares t
        ∧ s.apply t = s.replaceNaively t
        ∧ (s.apply t).binders = [x, y, y]
        ∧ (∀ v ∈ closed.freeVars, v ∉ s.domain)
        ∧ s.apply closed = closed := by
  intro x y z w s t closed
  have spares : s.Spares t := by decide
  have unbound : ∀ v ∈ closed.freeVars, v ∉ s.domain := by
    have listed : closed.freeVars.toList = [] := by decide
    intro v hv
    rw [← VarSet.mem_toList, listed] at hv
    cases hv
  exact ⟨spares, (apply_keeps_binders s t).1 spares, by decide, unbound,
    (apply_keeps_binders s closed).2 unbound⟩

-- without the renaming, the binder captures `y`
example
    : let x : Variable := ⟨"x", 0⟩
      let y : Variable := ⟨"y", 0⟩
      let s := singleton x (.var y)
      s.replaceNaively (.abs y (.var x)) = .abs y (.var y)
        ∧ s.apply (.abs y (.var x)) = .abs ⟨"y", 1⟩ (.var y) := by
  exact ⟨rfl, rfl⟩

end Substitution

end Backchain
