import Backchain.Proofs.Nameless
import Backchain.Rule

/-! Terms are equal up to the names of their bound variables exactly when they have one nameless
form. The comparison below binder pairs is read as two scopes, the left and the right names.
-/

namespace Backchain

namespace Term

/-- Variables agree under binder pairs exactly when they resolve alike on their own sides, by
induction on the pairs.
-/
theorem alphaEqVar_iff {scope : List (Variable × Variable)} {x y : Variable}
    : alphaEqVar scope x y = true
      ↔ Nameless.resolve (scope.map Prod.fst) x = Nameless.resolve (scope.map Prod.snd) y := by
  induction scope with
  | nil => simp [alphaEqVar]
  | cons pair outer ih =>
      obtain ⟨left, right⟩ := pair
      rw [List.map_cons, List.map_cons, Nameless.resolve_cons_eq_iff, alphaEqVar, ← ih]
      split <;> simp

/-- Argument lists agree under binder pairs when their terms do, by list induction. -/
theorem alphaEqAll_iff {scope : List (Variable × Variable)} {ts us : List Term}
    (each : ∀ t ∈ ts, ∀ u : Term, t.alphaEqIn scope u = true
      ↔ t.namelessIn (scope.map Prod.fst) = u.namelessIn (scope.map Prod.snd))
    : alphaEqAll scope ts us = true
      ↔ namelessAll (scope.map Prod.fst) ts = namelessAll (scope.map Prod.snd) us := by
  induction ts generalizing us with
  | nil => cases us <;> simp [alphaEqAll, namelessAll]
  | cons t rest ih =>
      cases us with
      | nil => simp [alphaEqAll, namelessAll]
      | cons u others =>
          have first := each t List.mem_cons_self u
          have tail : alphaEqAll scope rest others = true
              ↔ namelessAll (scope.map Prod.fst) rest = namelessAll (scope.map Prod.snd) others :=
            ih fun t' member => each t' (List.mem_cons_of_mem _ member)
          simp only [alphaEqAll, namelessAll, Bool.and_eq_true, List.cons.injEq, first, tail]

/-- The comparison under binder pairs decides equality of nameless forms, by induction on the left
term.
-/
theorem alphaEqIn_iff {scope : List (Variable × Variable)} {t u : Term}
    : t.alphaEqIn scope u = true
      ↔ t.namelessIn (scope.map Prod.fst) = u.namelessIn (scope.map Prod.snd) := by
  induction t generalizing scope u with
  | var x =>
      cases u with
      | var y => exact alphaEqVar_iff
      | app other others => simp [alphaEqIn, namelessIn]
      | abs other target => simp [alphaEqIn, namelessIn]
  | app head args ih =>
      cases u with
      | var y => simp [alphaEqIn, namelessIn, Nameless.resolve_ne_app.symm]
      | app other others =>
          have arguments : alphaEqAll scope args others = true
              ↔ namelessAll (scope.map Prod.fst) args = namelessAll (scope.map Prod.snd) others :=
            alphaEqAll_iff fun t member _ => ih t member
          simp [alphaEqIn, namelessIn, arguments]
      | abs other target => simp [alphaEqIn, namelessIn]
  | abs binder body ih =>
      cases u with
      | var y => simp [alphaEqIn, namelessIn, Nameless.resolve_ne_abs.symm]
      | app other others => simp [alphaEqIn, namelessIn]
      | abs other target =>
          simp only [alphaEqIn, namelessIn, Nameless.abs.injEq]
          exact ih

/-- Equality up to bound names is equality of nameless forms. -/
theorem alphaEq_iff {t u : Term} : t.alphaEq u = true ↔ t.nameless = u.nameless :=
  alphaEqIn_iff

theorem alphaEq_refl (t : Term) : t.alphaEq t = true := alphaEq_iff.mpr rfl

theorem alphaEq_symm {t u : Term} (same : t.alphaEq u = true) : u.alphaEq t = true :=
  alphaEq_iff.mpr (alphaEq_iff.mp same).symm

theorem alphaEq_trans {t u v : Term} (left : t.alphaEq u = true) (right : u.alphaEq v = true)
    : t.alphaEq v = true :=
  alphaEq_iff.mpr ((alphaEq_iff.mp left).trans (alphaEq_iff.mp right))

/-- Equality up to bound names is equality of nameless forms, for all terms and whatever binders
shadow each other, and so it is an equivalence.
-/
theorem alphaEq_equivalence
    : (∀ t u : Term, t.alphaEq u = true ↔ t.nameless = u.nameless)
      ∧ Equivalence (fun t u : Term => t.alphaEq u = true) := by
  refine ⟨fun t u => alphaEq_iff, ?_⟩
  exact { refl := alphaEq_refl, symm := alphaEq_symm, trans := alphaEq_trans }

-- shadowing on one side only: the inner binder counts
example
    : let x : Variable := ⟨"x", 0⟩
      let y : Variable := ⟨"y", 0⟩
      let shadowing : Term := .abs x (.abs x (.var x))
      shadowing.alphaEq (.abs x (.abs y (.var y))) = true
        ∧ shadowing.alphaEq (.abs x (.abs y (.var x))) = false := by
  decide

end Term

-----------------------------------------------------------------------------------------
-- Judgments and rules
-----------------------------------------------------------------------------------------

theorem Term.shape_of_alphaEq {t u : Term} (same : t.alphaEq u = true)
    : t.head? = u.head? ∧ t.args.length = u.args.length := by
  rcases namelessIn_eq_cases (alphaEq_iff.mp same) with
    ⟨x, y, rfl, rfl⟩ | ⟨head, args, targets, rfl, rfl, forms⟩ | ⟨_, _, _, _, rfl, rfl, _⟩
  · exact ⟨rfl, rfl⟩
  · have counted := congrArg List.length forms
    rw [List.length_map, List.length_map] at counted
    exact ⟨rfl, counted⟩
  · exact ⟨rfl, rfl⟩

namespace Judgment

theorem alphaEq_iff {j k : Judgment}
    : j.alphaEq k = true ↔ j.term.alphaEq k.term = true ∧ j.family = k.family := by
  simp [alphaEq]

theorem alphaEq_refl (j : Judgment) : j.alphaEq j = true :=
  alphaEq_iff.mpr ⟨Term.alphaEq_refl j.term, rfl⟩

theorem alphaEq_symm {j k : Judgment} (same : j.alphaEq k = true) : k.alphaEq j = true := by
  obtain ⟨terms, families⟩ := alphaEq_iff.mp same
  exact alphaEq_iff.mpr ⟨Term.alphaEq_symm terms, families.symm⟩

theorem alphaEq_trans {i j k : Judgment} (left : i.alphaEq j = true) (right : j.alphaEq k = true)
    : i.alphaEq k = true := by
  obtain ⟨terms, families⟩ := alphaEq_iff.mp left
  obtain ⟨others, matching⟩ := alphaEq_iff.mp right
  exact alphaEq_iff.mpr ⟨Term.alphaEq_trans terms others, families.trans matching⟩

/-- Equal judgments are both well-formed or both malformed for equal causes. -/
theorem validate_of_alphaEq {j k : Judgment} (same : j.alphaEq k = true)
    : j.Valid ∧ k.Valid
      ∨ ∃ cause other,
          j.validate = .error cause ∧ k.validate = .error other ∧ cause.alphaEq other = true := by
  obtain ⟨terms, families⟩ := alphaEq_iff.mp same
  obtain ⟨heads, counts⟩ := Term.shape_of_alphaEq terms
  unfold Valid validate
  rw [heads, counts, families]
  cases k.term.head? with
  | none => exact Or.inr ⟨_, _, rfl, rfl, same⟩
  | some head =>
      by_cases named : head = k.family.name
      · by_cases counted : k.term.args.length = k.family.arity
        · simp [named, counted]
        · simp [named, counted, MalformedJudgment.alphaEq, same]
      · simp [named, MalformedJudgment.alphaEq, same]

end Judgment

/-- Every rule equals itself, since each premise is compared with itself. -/
theorem Rule.alphaEq_refl (rule : Rule) : rule.alphaEq rule = true := by
  have premises : (rule.premises.zip rule.premises).all (fun pair => pair.1.alphaEq pair.2)
      = true := by
    rw [List.all_eq_true]
    intro pair member
    obtain ⟨premise, _, rfl⟩ : ∃ premise ∈ rule.premises, (premise, premise) = pair := by
      simpa [List.zip, List.zipWith_self] using member
    exact Judgment.alphaEq_refl premise
  simp [Rule.alphaEq, premises, Judgment.alphaEq_refl]

end Backchain
