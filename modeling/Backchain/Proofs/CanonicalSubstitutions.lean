import Backchain.Proofs.Composition
import Backchain.Proofs.MatchSoundness

/-! Substitutions in canonical form. However a substitution comes about, it holds no variable bound
to itself, and so it is determined by what it does: two of them are equal as maps exactly when they
have the same effect on every term. The laws of composition then follow from those of its effect.
-/

namespace Backchain

namespace Substitution

/-- The ways in which substitutions come about. -/
inductive Built : Substitution → Prop
  | identity : Built Substitution.identity
  | singleton (x : Variable) (t : Term) : Built (Substitution.singleton x t)
  | bind {s : Substitution} (built : Built s) (x : Variable) (t : Term) : Built (s.bind x t)
  | ofList (bindings : List (Variable × Term)) : Built (Substitution.ofList bindings)
  | andThen {s o : Substitution} (first : Built s) (second : Built o) : Built (s.andThen o)
  | matched {pattern target : Term} {s : Substitution} (found : pattern.match? target = some s)
    : Built s

/-- No variable is bound to itself. -/
def Proper (s : Substitution) : Prop := ∀ x, s.get? x ≠ some (.var x)

-----------------------------------------------------------------------------------------
-- No variable is bound to itself
-----------------------------------------------------------------------------------------

theorem proper_identity : identity.Proper := by
  intro x bound
  cases bound

theorem Proper.bind {s : Substitution} (proper : s.Proper) (x : Variable) (t : Term)
    : (s.bind x t).Proper := by
  intro y bound
  rcases get?_bind.mp bound with ⟨same, _, other⟩ | ⟨_, before⟩
  · exact other (congrArg Term.var same)
  · exact proper y before

/-- Binding variables in turn never leaves one bound to itself, by list induction. -/
theorem Proper.foldl_bind {s : Substitution} (proper : s.Proper)
    (entries : List (Variable × Term))
    : (entries.foldl (fun acc entry => acc.bind entry.1 entry.2) s).Proper := by
  induction entries generalizing s with
  | nil => exact proper
  | cons first rest ih => exact ih (proper.bind first.1 first.2)

theorem proper_ofList (bindings : List (Variable × Term)) : (ofList bindings).Proper :=
  proper_identity.foldl_bind bindings

/-- The composition of any two substitutions is made by binding variables in turn. -/
theorem proper_andThen (s o : Substitution) : (s.andThen o).Proper := by
  rw [andThen_eq]
  exact (proper_identity.foldl_bind _).foldl_bind _

/-- However a substitution comes about, it binds no variable to itself. -/
theorem Built.proper {s : Substitution} (built : s.Built) : s.Proper := by
  induction built with
  | identity => exact proper_identity
  | singleton x t => exact proper_identity.bind x t
  | bind _ x t ih => exact ih.bind x t
  | ofList bindings => exact proper_ofList bindings
  | andThen => exact proper_andThen _ _
  | matched found =>
      obtain ⟨bindings, _, rfl⟩ := Term.match?_cases found
      exact proper_ofList bindings.entries

end Substitution

-----------------------------------------------------------------------------------------
-- Substitutions with the same effect
-----------------------------------------------------------------------------------------

theorem Term.nameless_eq_free_iff {t : Term} {x : Variable}
    : t.nameless = .free x ↔ t = .var x := by
  cases t with
  | var y => simp [nameless, namelessIn]
  | app head args => simp [nameless, namelessIn]
  | abs binder body => simp [nameless, namelessIn]

namespace Substitution

theorem nameless_identity : identity.nameless = .free := rfl

/-- A variable is without a binding exactly when it stands for itself, so what a variable stands for
tells its binding.
-/
theorem Proper.map_get?_eq_of_nameless {s o : Substitution} (left : s.Proper) (right : o.Proper)
    {x : Variable} (same : s.nameless x = o.nameless x)
    : (s.get? x).map Term.nameless = (o.get? x).map Term.nameless := by
  rw [nameless, nameless] at same
  cases bound : s.get? x with
  | none =>
      cases other : o.get? x with
      | none => rfl
      | some u =>
          rw [bound, other] at same
          have self : u = .var x := Term.nameless_eq_free_iff.mp same.symm
          exact absurd (self ▸ other) (right x)
  | some t =>
      cases other : o.get? x with
      | none =>
          rw [bound, other] at same
          have self : t = .var x := Term.nameless_eq_free_iff.mp same
          exact absurd (self ▸ bound) (left x)
      | some u =>
          rw [bound, other] at same
          exact congrArg some same

theorem alphaEq_iff_nameless {s o : Substitution} (left : s.Proper) (right : o.Proper)
    : s.alphaEq o = true ↔ s.nameless = o.nameless := by
  constructor
  · intro same
    exact funext (nameless_eq_of_alphaEq same)
  · intro same
    exact alphaEq_iff_get?.mpr fun x => left.map_get?_eq_of_nameless right (congrFun same x)

/-- What the variables stand for is the effect on every term. -/
theorem forall_alphaEq_apply_iff {s o : Substitution}
    : (∀ t, (s.apply t).alphaEq (o.apply t) = true) ↔ s.nameless = o.nameless := by
  constructor
  · intro same
    funext x
    rw [← nameless_apply_var, ← nameless_apply_var]
    exact Term.alphaEq_iff.mp (same (.var x))
  · intro same t
    rw [Term.alphaEq_iff, nameless_apply, nameless_apply, same]

theorem nameless_identity_andThen (s : Substitution)
    : (identity.andThen s).nameless = s.nameless := by
  funext x
  rw [nameless_andThen, nameless_identity, Nameless.subst]

theorem nameless_andThen_identity (s : Substitution)
    : (s.andThen identity).nameless = s.nameless := by
  funext x
  rw [nameless_andThen, nameless_identity, Nameless.subst_free]

theorem nameless_andThen_assoc (s o r : Substitution)
    : ((s.andThen o).andThen r).nameless = (s.andThen (o.andThen r)).nameless := by
  have later : (o.andThen r).nameless = fun x => (o.nameless x).subst r.nameless :=
    funext (nameless_andThen o r)
  funext x
  rw [nameless_andThen, nameless_andThen, nameless_andThen, Nameless.subst_subst, later]

/-- Substitutions are canonical and compose like functions. However they come about, they bind no
variable to itself; they are equal exactly when they have equal effects on every term; and under
composition they have the identity as neutral element on both sides and are associative, all with
the same variables bound on both sides.
-/
theorem built_canonical {s o : Substitution} (first : s.Built) (second : o.Built)
    (r : Substitution)
    : (∀ x, s.get? x ≠ some (.var x))
      ∧ (s.alphaEq o = true ↔ ∀ t, (s.apply t).alphaEq (o.apply t) = true)
      ∧ (identity.andThen s).alphaEq s = true
      ∧ s.alphaEq (s.andThen identity) = true
      ∧ ((s.andThen o).andThen r).alphaEq (s.andThen (o.andThen r)) = true := by
  refine ⟨first.proper, ?_, ?_, ?_, ?_⟩
  · rw [alphaEq_iff_nameless first.proper second.proper, forall_alphaEq_apply_iff]
  · rw [alphaEq_iff_nameless (proper_andThen _ _) first.proper]
    exact nameless_identity_andThen s
  · rw [alphaEq_iff_nameless first.proper (proper_andThen _ _)]
    exact (nameless_andThen_identity s).symm
  · rw [alphaEq_iff_nameless (proper_andThen _ _) (proper_andThen _ _)]
    exact nameless_andThen_assoc s o r

/-- The first substitution is found by matching, where `z` meets itself, and the second takes back
what the first does to `x`. So their composition binds `y` only, and the third binds `x` again.
-/
theorem built_canonical_of_taken_back
    : let x : Variable := ⟨"x", 0⟩
      let y : Variable := ⟨"y", 0⟩
      let z : Variable := ⟨"z", 0⟩
      let s := singleton x (.var y)
      let o := ofList [(y, .var x), (z, .var z)]
      let r := singleton x (.abs z (.var z))
      (Term.app "f" [.var x, .var z]).match? (.app "f" [.var y, .var z]) = some s
        ∧ s.Built
        ∧ o.Built
        ∧ (s.andThen o).domain = [y]
        ∧ ((s.andThen o).andThen r).domain = [x, y]
        ∧ (∀ v, s.get? v ≠ some (.var v))
        ∧ (s.alphaEq o = true ↔ ∀ t, (s.apply t).alphaEq (o.apply t) = true)
        ∧ (identity.andThen s).alphaEq s = true
        ∧ s.alphaEq (s.andThen identity) = true
        ∧ ((s.andThen o).andThen r).alphaEq (s.andThen (o.andThen r)) = true := by
  have found : (Term.app "f" [.var ⟨"x", 0⟩, .var ⟨"z", 0⟩]).match?
        (.app "f" [.var ⟨"y", 0⟩, .var ⟨"z", 0⟩])
      = some (singleton ⟨"x", 0⟩ (.var ⟨"y", 0⟩)) :=
    rfl
  intro x y z s o r
  have first : s.Built := .matched found
  have second : o.Built := .ofList [(y, .var x), (z, .var z)]
  exact ⟨found, first, second, by decide, by decide, built_canonical first second r⟩

end Substitution

end Backchain
