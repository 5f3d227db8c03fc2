import Backchain.Proofs.CaptureAvoidance

/-! Binding variables one after the other. A substitution does not hold a variable bound to itself,
and leaving that binding out changes nothing: a variable without a binding stands for itself.
-/

namespace Backchain

namespace Substitution

-----------------------------------------------------------------------------------------
-- One binding
-----------------------------------------------------------------------------------------

theorem bind_self (s : Substitution) (x : Variable)
    : s.bind x (.var x) = ⟨s.bindings.erase x⟩ := by
  simp [bind]

theorem bind_of_ne {s : Substitution} {x : Variable} {t : Term} (proper : t ≠ .var x)
    : s.bind x t = ⟨s.bindings.insert x t⟩ := by
  cases t with
  | var y =>
      have other : y ≠ x := fun same => proper (congrArg Term.var same)
      simp [bind, other]
  | app head args => rfl
  | abs binder body => rfl

/-- A variable has the binding last given to it, unless that is the variable itself. -/
theorem get?_bind {s : Substitution} {x y : Variable} {t u : Term}
    : (s.bind x t).get? y = some u
      ↔ y = x ∧ t = u ∧ u ≠ .var x ∨ y ≠ x ∧ s.get? y = some u := by
  by_cases self : t = .var x
  · subst self
    rw [bind_self]
    by_cases same : y = x
    · simp only [get?, VarMap.get?_erase, same, if_true, reduceCtorEq, true_and, ne_eq, not_true,
        false_and, or_false, false_iff, not_and]
      exact fun e proper => proper e.symm
    · simp [get?, same]
  · rw [bind_of_ne self]
    by_cases same : y = x
    · simp only [get?, VarMap.get?_insert, same, if_true, Option.some.injEq, true_and, ne_eq,
        not_true, false_and, or_false]
      exact ⟨fun e => ⟨e, e ▸ self⟩, fun h => h.1⟩
    · simp [get?, same]

/-- A variable becomes the term it is bound to, even if that is the variable itself. -/
theorem apply_bind_var (s : Substitution) (x : Variable) (t : Term) (y : Variable)
    : (s.bind x t).apply (.var y) = if y = x then t else s.apply (.var y) := by
  rw [apply_var, apply_var]
  by_cases self : t = .var x
  · subst self
    rw [bind_self]
    by_cases same : y = x <;> simp [get?, same]
  · rw [bind_of_ne self]
    by_cases same : y = x <;> simp [get?, same]

theorem apply_singleton_var (x : Variable) (t : Term) (y : Variable)
    : (singleton x t).apply (.var y) = if y = x then t else .var y := by
  rw [singleton, apply_bind_var, apply_of_isIdentity rfl]

theorem nameless_bind (s : Substitution) (x : Variable) (t : Term) (y : Variable)
    : (s.bind x t).nameless y = if y = x then t.nameless else s.nameless y := by
  rw [← nameless_apply_var, apply_bind_var]
  split
  · rfl
  · exact nameless_apply_var s y

-----------------------------------------------------------------------------------------
-- Bindings in turn
-----------------------------------------------------------------------------------------

/-- Binding entries of different variables in turn binds each variable to its own entry, by list
induction.
-/
theorem get?_foldl_bind {entries : List (Variable × Term)}
    (distinct : entries.Pairwise (fun a b => a.1 < b.1)) {s : Substitution} {x : Variable}
    {t : Term}
    : (entries.foldl (fun s entry => s.bind entry.1 entry.2) s).get? x = some t
      ↔ (x, t) ∈ entries ∧ t ≠ .var x
        ∨ (∀ u, (x, u) ∉ entries) ∧ s.get? x = some t := by
  induction entries generalizing s with
  | nil => simp
  | cons first rest ih =>
      obtain ⟨k, c⟩ := first
      obtain ⟨above, others⟩ := List.pairwise_cons.mp distinct
      have once : ∀ u, (k, u) ∉ rest := fun u member => Variable.lt_irrefl k (above _ member)
      rw [List.foldl_cons, ih others, get?_bind]
      simp only [List.mem_cons, Prod.mk.injEq, not_or, not_and]
      by_cases same : x = k
      · subst same
        simp [once, eq_comm]
      · simp [same]

/-- Each variable then stands for the term of its own entry, and the others for what they stood for
before, by list induction.
-/
theorem nameless_foldl_bind {entries : List (Variable × Term)}
    (distinct : entries.Pairwise (fun a b => a.1 < b.1)) (s : Substitution) (x : Variable)
    : (entries.foldl (fun s entry => s.bind entry.1 entry.2) s).nameless x
      = ((VarMap.lookupEntry x entries).map Term.nameless).getD (s.nameless x) := by
  induction entries generalizing s with
  | nil => rfl
  | cons first rest ih =>
      obtain ⟨k, c⟩ := first
      obtain ⟨above, others⟩ := List.pairwise_cons.mp distinct
      rw [List.foldl_cons, ih others, nameless_bind]
      by_cases same : x = k
      · subst same
        have once : VarMap.lookupEntry x rest = none := VarMap.lookupEntry_eq_none above
        simp [VarMap.lookupEntry, once]
      · simp [VarMap.lookupEntry, same]

/-- Turning collected bindings into a substitution only leaves out the variables bound to
themselves.
-/
theorem get?_ofList_entries {found : VarMap Term} {x : Variable} {t : Term}
    : (ofList found.entries).get? x = some t ↔ found.get? x = some t ∧ t ≠ .var x := by
  rw [ofList, get?_foldl_bind found.ascending, VarMap.mem_entries]
  simp [identity, get?]

/-- A variable becomes the term collected for it, even if that is the variable itself. -/
theorem apply_ofList_entries_var (found : VarMap Term) (x : Variable)
    : (ofList found.entries).apply (.var x) = (found.get? x).getD (.var x) := by
  rw [apply_var]
  cases kept : (ofList found.entries).get? x with
  | some t =>
      rw [get?_ofList_entries] at kept
      rw [kept.1]
  | none =>
      cases bound : found.get? x with
      | none => rfl
      | some t =>
          by_cases self : t = .var x
          · rw [self]
            rfl
          · have here : (ofList found.entries).get? x = some t :=
              get?_ofList_entries.mpr ⟨bound, self⟩
            rw [kept] at here
            cases here

theorem nameless_ofList_entries (found : VarMap Term) (x : Variable)
    : (ofList found.entries).nameless x = (Substitution.mk found).nameless x := by
  rw [ofList, nameless_foldl_bind found.ascending]
  rfl

end Substitution

end Backchain
