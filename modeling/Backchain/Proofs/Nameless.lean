import Backchain.Term

/-! Nameless terms: a bound variable is the number of binders between it and its own, and a free
variable keeps its name. A replacement for a free variable has no index that points out of it, so
it goes below binders as it is, without renaming and without shifting.
-/

namespace Backchain

/-- A term without the names of its binders. -/
inductive Nameless where
  | bound (index : Nat)
  | free (x : Variable)
  | app (head : Symbol) (args : List Nameless)
  | abs (body : Nameless)
deriving Inhabited

namespace Nameless

/-- Induction on nameless terms, with a hypothesis for every argument of a constructor. -/
@[induction_eliminator]
theorem induct {motive : Nameless → Prop} (bound : ∀ index, motive (.bound index))
    (free : ∀ x, motive (.free x))
    (app : ∀ head args, (∀ arg ∈ args, motive arg) → motive (.app head args))
    (abs : ∀ body, motive body → motive (.abs body))
    : ∀ t, motive t := by
  intro t
  refine Nameless.rec (motive_1 := motive) (motive_2 := fun args => ∀ arg ∈ args, motive arg)
    bound free app abs (fun _ h => nomatch h) (fun first rest hf hr arg hm => ?_) t
  rcases List.mem_cons.mp hm with rfl | hm
  · exact hf
  · exact hr arg hm

mutual
/-- Replaces all free variables at once. -/
def subst (value : Variable → Nameless) : Nameless → Nameless
  | .bound index => .bound index
  | .free x => value x
  | .app head args => .app head (substAll value args)
  | .abs body => .abs (body.subst value)

/-- Replaces the free variables of every term of a list. -/
def substAll (value : Variable → Nameless) : List Nameless → List Nameless
  | [] => []
  | t :: rest => t.subst value :: substAll value rest
end

mutual
/-- Every index points to a binder of the term or to one of the given number of binders around it.
-/
def ClosedAt (depth : Nat) : Nameless → Prop
  | .bound index => index < depth
  | .free _ => True
  | .app _ args => AllClosedAt depth args
  | .abs body => body.ClosedAt (depth + 1)

/-- The same for every term of a list. -/
def AllClosedAt (depth : Nat) : List Nameless → Prop
  | [] => True
  | t :: rest => t.ClosedAt depth ∧ AllClosedAt depth rest
end

/-- What a variable is below the given binders, innermost first. -/
def resolve (scope : List Variable) (x : Variable) : Nameless :=
  match scope.idxOf? x with
  | some index => .bound index
  | none => .free x

theorem substAll_eq_map (value : Variable → Nameless) (ts : List Nameless)
    : substAll value ts = ts.map (subst value) := by
  induction ts with
  | nil => rfl
  | cons t rest ih => simp [substAll, ih]

/-- Two replacements in turn are one, since no replacement is shifted on its way below a binder. -/
theorem subst_subst (first second : Variable → Nameless) (t : Nameless)
    : (t.subst first).subst second = t.subst (fun x => (first x).subst second) := by
  induction t with
  | bound index => simp only [subst]
  | free x => simp only [subst]
  | app head args ih =>
      simp only [subst, substAll_eq_map, List.map_map, app.injEq, true_and]
      exact List.map_congr_left ih
  | abs body ih => simp only [subst, ih]

/-- Every variable put in for itself leaves a nameless term alone. -/
theorem subst_free (t : Nameless) : t.subst .free = t := by
  induction t with
  | bound index => simp only [subst]
  | free x => simp only [subst]
  | app head args ih =>
      have same : args.map (subst .free) = args.map id := List.map_congr_left ih
      rw [subst, substAll_eq_map, same, List.map_id]
  | abs body ih => simp only [subst, ih]

theorem allClosedAt_iff {depth : Nat} {ts : List Nameless}
    : AllClosedAt depth ts ↔ ∀ t ∈ ts, t.ClosedAt depth := by
  induction ts with
  | nil => simp [AllClosedAt]
  | cons t rest ih => simp [AllClosedAt, ih]

@[simp] theorem resolve_nil (x : Variable) : resolve [] x = .free x := rfl

theorem resolve_eq_bound {scope : List Variable} {x : Variable} {index : Nat}
    : resolve scope x = .bound index ↔ scope.idxOf? x = some index := by
  unfold resolve
  cases scope.idxOf? x <;> simp

@[simp] theorem resolve_ne_app {scope : List Variable} {x : Variable} {head : Symbol}
    {args : List Nameless}
    : resolve scope x ≠ .app head args := by
  unfold resolve
  cases scope.idxOf? x <;> simp

@[simp] theorem resolve_ne_abs {scope : List Variable} {x : Variable} {body : Nameless}
    : resolve scope x ≠ .abs body := by
  unfold resolve
  cases scope.idxOf? x <;> simp

theorem resolve_of_not_mem {scope : List Variable} {x : Variable} (absent : x ∉ scope)
    : resolve scope x = .free x := by
  simp [resolve, List.idxOf?_eq_none_iff.mpr absent]

/-- Below one more binder on either side, the two binders decide if one of them binds its variable,
and otherwise the variables resolve alike if they did so before.
-/
theorem resolve_cons_eq_iff {left right x y : Variable} {scope others : List Variable}
    : resolve (left :: scope) x = resolve (right :: others) y
      ↔ if left = x ∨ right = y then left = x ∧ right = y
        else resolve scope x = resolve others y := by
  simp only [resolve, List.idxOf?_cons, beq_iff_eq]
  by_cases hl : left = x
  · by_cases hr : right = y
    · simp [hl, hr]
    · cases others.idxOf? y <;> simp [hl, hr]
  · by_cases hr : right = y
    · cases scope.idxOf? x <;> simp [hl, hr]
    · cases scope.idxOf? x <;> cases others.idxOf? y <;> simp [hl, hr]

/-- Different variables are told apart below any binders, by induction on the binders. -/
theorem resolve_inj {scope : List Variable} {x y : Variable}
    : resolve scope x = resolve scope y ↔ x = y := by
  induction scope with
  | nil => simp
  | cons binder outer ih =>
      rw [resolve_cons_eq_iff, ih]
      by_cases hx : binder = x
      · simp [hx]
      · by_cases hy : binder = y
        · simp [hy, eq_comm]
        · simp [hx, hy]

/-- Further binders around both sides do not change whether two variables resolve alike, by
induction on the inner binders.
-/
theorem resolve_append_inj {inner others : List Variable} (outer : List Variable) {x y : Variable}
    (sameDepth : inner.length = others.length)
    : resolve (inner ++ outer) x = resolve (others ++ outer) y
      ↔ resolve inner x = resolve others y := by
  induction inner generalizing others with
  | nil =>
      rw [List.eq_nil_of_length_eq_zero sameDepth.symm]
      simp [resolve_inj]
  | cons left inner ih =>
      cases others with
      | nil => cases sameDepth
      | cons right others =>
          rw [List.cons_append, List.cons_append, resolve_cons_eq_iff, resolve_cons_eq_iff,
            ih (Nat.succ.inj sameDepth)]

/-- A variable is found in the inner part of a scope, or else its index is counted from there. -/
theorem resolve_append (inner outer : List Variable) (x : Variable)
    : resolve (inner ++ outer) x
      = match inner.idxOf? x with
        | some index => .bound index
        | none =>
            match outer.idxOf? x with
            | some index => .bound (index + inner.length)
            | none => .free x := by
  have position : (inner ++ outer).idxOf? x
      = (inner.idxOf? x).or ((outer.idxOf? x).map (· + inner.length)) :=
    List.findIdx?_append
  unfold resolve
  rw [position]
  cases inner.idxOf? x with
  | some index => rfl
  | none => cases outer.idxOf? x <;> rfl

end Nameless

-----------------------------------------------------------------------------------------
-- The nameless form of a term
-----------------------------------------------------------------------------------------

namespace Term

open Nameless (resolve)

mutual
/-- The nameless form of a term below the given binders, innermost first. -/
def namelessIn (scope : List Variable) : Term → Nameless
  | .var x => resolve scope x
  | .app head args => .app head (namelessAll scope args)
  | .abs binder body => .abs (body.namelessIn (binder :: scope))

/-- The nameless forms of the terms of a list. -/
def namelessAll (scope : List Variable) : List Term → List Nameless
  | [] => []
  | t :: rest => t.namelessIn scope :: namelessAll scope rest
end

/-- The nameless form of a term. -/
def nameless (t : Term) : Nameless := t.namelessIn []

theorem namelessAll_eq_map (scope : List Variable) (ts : List Term)
    : namelessAll scope ts = ts.map (namelessIn scope) := by
  induction ts with
  | nil => rfl
  | cons t rest ih => simp [namelessAll, ih]

/-- Terms of one nameless form are of one kind. Constructors have the same head and arguments of one
nameless form each, and so have the bodies of binders below these binders.
-/
theorem namelessIn_eq_cases {t u : Term} {scope others : List Variable}
    (same : t.namelessIn scope = u.namelessIn others)
    : (∃ x y, t = .var x ∧ u = .var y)
      ∨ (∃ head args targets,
          t = .app head args
          ∧ u = .app head targets
          ∧ args.map (namelessIn scope) = targets.map (namelessIn others))
      ∨ ∃ binder body other target,
          t = .abs binder body
          ∧ u = .abs other target
          ∧ body.namelessIn (binder :: scope) = target.namelessIn (other :: others) := by
  cases t with
  | var x =>
      cases u with
      | var y => exact Or.inl ⟨x, y, rfl, rfl⟩
      | app other targets => simp [namelessIn] at same
      | abs other target => simp [namelessIn] at same
  | app head args =>
      cases u with
      | var y => simp [namelessIn, Nameless.resolve_ne_app.symm] at same
      | app other targets =>
          simp only [namelessIn, namelessAll_eq_map, Nameless.app.injEq] at same
          exact Or.inr (Or.inl ⟨head, args, targets, rfl, by rw [same.1], same.2⟩)
      | abs other target => simp [namelessIn] at same
  | abs binder body =>
      cases u with
      | var y => simp [namelessIn, Nameless.resolve_ne_abs.symm] at same
      | app other targets => simp [namelessIn] at same
      | abs other target =>
          simp only [namelessIn, Nameless.abs.injEq] at same
          exact Or.inr (Or.inr ⟨binder, body, other, target, rfl, rfl, same⟩)

@[simp] theorem mem_freeVars_var {x y : Variable} : y ∈ (Term.var x).freeVars ↔ y = x := by
  simp [freeVars]

@[simp] theorem mem_freeVars_app {head : Symbol} {args : List Term} {x : Variable}
    : x ∈ (Term.app head args).freeVars ↔ ∃ arg ∈ args, x ∈ arg.freeVars := by
  simp [freeVars, mem_freeVarsAll]

@[simp] theorem mem_freeVars_abs {binder x : Variable} {body : Term}
    : x ∈ (Term.abs binder body).freeVars ↔ x ≠ binder ∧ x ∈ body.freeVars := by
  simp [freeVars]

/-- Binders that bind no free variable of a term leave its nameless form alone, by induction on the
term with its own binders as the inner scope.
-/
theorem namelessIn_append {t : Term} (inner : List Variable) {outer : List Variable}
    (apart : ∀ x ∈ t.freeVars, x ∉ inner → x ∉ outer)
    : t.namelessIn (inner ++ outer) = t.namelessIn inner := by
  induction t generalizing inner with
  | var x =>
      have absent := apart x (by simp)
      simp only [namelessIn, Nameless.resolve_append]
      unfold resolve
      cases found : inner.idxOf? x with
      | some index => rfl
      | none =>
          have outside := absent (List.idxOf?_eq_none_iff.mp found)
          simp [List.idxOf?_eq_none_iff.mpr outside]
  | app head args ih =>
      simp only [namelessIn, namelessAll_eq_map, Nameless.app.injEq, true_and, List.map_inj_left]
      intro arg member
      exact ih arg member inner fun x hx => apart x (mem_freeVars_app.mpr ⟨arg, member, hx⟩)
  | abs binder body ih =>
      simp only [namelessIn, Nameless.abs.injEq]
      refine ih (binder :: inner) fun x hx absent => ?_
      rw [List.mem_cons, not_or] at absent
      exact apart x (mem_freeVars_abs.mpr ⟨absent.1, hx⟩) absent.2

/-- Two ways to compare terms agree on lists if they agree on the terms of the first list, by list
induction.
-/
theorem map_eq_map_iff {ts us : List Term} {left right left' right' : Term → Nameless}
    (each : ∀ t ∈ ts, ∀ u, left t = right u ↔ left' t = right' u)
    : ts.map left = us.map right ↔ ts.map left' = us.map right' := by
  induction ts generalizing us with
  | nil => cases us <;> simp
  | cons t rest ih =>
      cases us with
      | nil => simp
      | cons u others =>
          rw [List.map_cons, List.map_cons, List.map_cons, List.map_cons, List.cons.injEq,
            List.cons.injEq, each t List.mem_cons_self u,
            ih fun t' member => each t' (List.mem_cons_of_mem t member)]

/-- Further binders around both of two terms do not change whether they have one nameless form, by
induction on the first with the binders inside it as the inner ones.
-/
theorem namelessIn_append_inj {t u : Term} (inner others outer : List Variable)
    (sameDepth : inner.length = others.length)
    : t.namelessIn (inner ++ outer) = u.namelessIn (others ++ outer)
      ↔ t.namelessIn inner = u.namelessIn others := by
  induction t generalizing u inner others with
  | var x =>
      cases u with
      | var y => exact Nameless.resolve_append_inj outer sameDepth
      | app other targets => simp [namelessIn]
      | abs other target => simp [namelessIn]
  | app head args ih =>
      cases u with
      | var y => simp [namelessIn, Nameless.resolve_ne_app.symm]
      | app other targets =>
          have arguments : args.map (namelessIn (inner ++ outer))
                = targets.map (namelessIn (others ++ outer))
              ↔ args.map (namelessIn inner) = targets.map (namelessIn others) :=
            map_eq_map_iff fun arg member _ => ih arg member inner others sameDepth
          simp only [namelessIn, namelessAll_eq_map, Nameless.app.injEq, arguments]
      | abs other target => simp [namelessIn]
  | abs binder body ih =>
      cases u with
      | var y => simp [namelessIn, Nameless.resolve_ne_abs.symm]
      | app other targets => simp [namelessIn]
      | abs other target =>
          simp only [namelessIn, Nameless.abs.injEq, ← List.cons_append]
          exact ih (binder :: inner) (other :: others) (congrArg Nat.succ sameDepth)

theorem namelessIn_inj {t u : Term} {scope : List Variable}
    : t.namelessIn scope = u.namelessIn scope ↔ t.nameless = u.nameless :=
  namelessIn_append_inj [] [] scope rfl

/-- A term below binders that bind none of its free variables is in its own nameless form. -/
theorem namelessIn_of_disjoint {t : Term} {scope : List Variable}
    (apart : ∀ x ∈ t.freeVars, x ∉ scope)
    : t.namelessIn scope = t.nameless :=
  namelessIn_append [] fun x hx _ => apart x hx

/-- The indices of a nameless form stay within the inner scope exactly when no free variable is
bound by the outer one, by induction on the term.
-/
theorem closedAt_namelessIn_append {t : Term} (inner outer : List Variable)
    : (t.namelessIn (inner ++ outer)).ClosedAt inner.length
      ↔ ∀ x ∈ t.freeVars, x ∉ inner → x ∉ outer := by
  induction t generalizing inner with
  | var x =>
      simp only [namelessIn, Nameless.resolve_append, mem_freeVars_var, forall_eq]
      cases found : inner.idxOf? x with
      | some index =>
          obtain ⟨bound, same, _⟩ := List.idxOf?_eq_some_iff.mp found
          have member : x ∈ inner := same ▸ List.getElem_mem bound
          simp [Nameless.ClosedAt, bound, member]
      | none =>
          have absent := List.idxOf?_eq_none_iff.mp found
          cases outside : outer.idxOf? x with
          | some index =>
              obtain ⟨bound, same, _⟩ := List.idxOf?_eq_some_iff.mp outside
              have member : x ∈ outer := same ▸ List.getElem_mem bound
              simp [Nameless.ClosedAt, absent, member]
          | none => simp [Nameless.ClosedAt, List.idxOf?_eq_none_iff.mp outside]
  | app head args ih =>
      simp only [namelessIn, namelessAll_eq_map, Nameless.ClosedAt, Nameless.allClosedAt_iff,
        List.forall_mem_map, mem_freeVars_app]
      constructor
      · rintro closed x ⟨arg, member, hx⟩
        exact (ih arg member inner).mp (closed arg member) x hx
      · intro apart arg member
        exact (ih arg member inner).mpr fun x hx => apart x ⟨arg, member, hx⟩
  | abs binder body ih =>
      have below := ih (binder :: inner)
      simp only [List.cons_append, List.length_cons] at below
      simp only [namelessIn, Nameless.ClosedAt, below, mem_freeVars_abs, List.mem_cons, not_or]
      constructor
      · intro apart x hx absent
        exact apart x hx.2 ⟨hx.1, absent⟩
      · intro apart x hx absent
        exact apart x ⟨absent.1, hx⟩ absent.2

theorem closedAt_nameless (t : Term) : t.nameless.ClosedAt 0 :=
  (closedAt_namelessIn_append [] []).mpr fun _ _ _ => List.not_mem_nil

/-- Two replacements of the free variables have the same effect on a nameless form exactly when they
agree on the variables free in the term, by induction on the term.
-/
theorem subst_namelessIn_inj {t : Term} {scope : List Variable} {value other : Variable → Nameless}
    : (t.namelessIn scope).subst value = (t.namelessIn scope).subst other
      ↔ ∀ x ∈ t.freeVars, x ∉ scope → value x = other x := by
  induction t generalizing scope with
  | var x =>
      simp only [namelessIn, mem_freeVars_var, forall_eq]
      by_cases member : x ∈ scope
      · cases found : scope.idxOf? x with
        | none => exact absurd member (List.idxOf?_eq_none_iff.mp found)
        | some index =>
            rw [Nameless.resolve_eq_bound.mpr found]
            simp [Nameless.subst, member]
      · rw [Nameless.resolve_of_not_mem member]
        simp [Nameless.subst, member]
  | app head args ih =>
      simp only [namelessIn, namelessAll_eq_map, Nameless.subst, Nameless.substAll_eq_map,
        List.map_map, Nameless.app.injEq, true_and, List.map_inj_left, Function.comp_apply,
        mem_freeVars_app]
      constructor
      · rintro same x ⟨arg, member, hx⟩
        exact (ih arg member).mp (same arg member) x hx
      · intro agree arg member
        exact (ih arg member).mpr fun x hx => agree x ⟨arg, member, hx⟩
  | abs binder body ih =>
      simp only [namelessIn, Nameless.subst, Nameless.abs.injEq, ih, mem_freeVars_abs,
        List.mem_cons, not_or]
      constructor
      · intro agree x hx absent
        exact agree x hx.2 ⟨hx.1, absent⟩
      · intro agree x hx absent
        exact agree x ⟨absent.1, hx⟩ absent.2

end Term

end Backchain
