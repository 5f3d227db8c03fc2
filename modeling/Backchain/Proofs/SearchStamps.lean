import Backchain.Proofs.MatchSoundness
import Backchain.Proofs.StampGrowth
import Backchain.Proofs.Subgoals

/-! The stamps that come up in a search. What a rule puts into its premises are parts of the goal,
so a premise has stamps above those of the goal and of the rule only where binders were renamed.
Each level adds at most the number of nested binders of a premise; as long as 32 bits can hold the
sum, no stamp outgrows them.
-/

namespace Backchain

namespace Term

/-- What is bound by matching terms of a list is made of variables of the targets, if that holds of
each term, by induction on the patterns.
-/
theorem mem_vars_of_matchAll {pairs : BinderPairs} {patterns targets : List Term}
    {found result : VarMap Term}
    (each : ∀ pattern ∈ patterns, ∀ (target : Term) (found result : VarMap Term),
      pattern.matchIn pairs target found = some result
      → ∀ x u, result.get? x = some u → found.get? x = some u ∨ ∀ y ∈ u.vars, y ∈ target.vars)
    (matched : matchAll pairs patterns targets found = some result) {x : Variable} {u : Term}
    (bound : result.get? x = some u)
    : found.get? x = some u ∨ ∀ y ∈ u.vars, y ∈ varsAll targets := by
  induction patterns generalizing targets found with
  | nil =>
      cases targets with
      | nil =>
          cases matched
          exact Or.inl bound
      | cons target targets => cases matched
  | cons pattern patterns ih =>
      cases targets with
      | nil => cases matched
      | cons target targets =>
          rw [matchAll] at matched
          obtain ⟨middle, first, rest⟩ := Option.bind_eq_some_iff.mp matched
          have others := ih (fun other member => each other (List.mem_cons_of_mem _ member)) rest
          rcases others with before | later
          · rcases each pattern List.mem_cons_self target found middle first x u before with
              earlier | here
            · exact Or.inl earlier
            · exact Or.inr fun y member => List.mem_append_left _ (here y member)
          · exact Or.inr fun y member => List.mem_append_right _ (later y member)

/-- What is bound by matching is made of variables of the target, by induction on the pattern. -/
theorem mem_vars_of_matchIn {pairs : BinderPairs} {pattern target : Term}
    {found result : VarMap Term} (matched : pattern.matchIn pairs target found = some result)
    {x : Variable} {u : Term} (bound : result.get? x = some u)
    : found.get? x = some u ∨ ∀ y ∈ u.vars, y ∈ target.vars := by
  induction pattern generalizing pairs target found result x u with
  | var z =>
      rcases matchIn_var_cases matched with ⟨_, _, _, _, _, rfl⟩ | ⟨_, _, binds⟩
      · exact Or.inl bound
      · rcases bindOrCompare_cases binds with ⟨_, _, _, rfl⟩ | ⟨_, rfl⟩
        · exact Or.inl bound
        · rw [VarMap.get?_insert] at bound
          split at bound
          · cases bound
            exact Or.inr fun _ member => member
          · exact Or.inl bound
  | app head args ih =>
      cases target with
      | var y => cases matched
      | app other targets =>
          rw [matchIn] at matched
          split at matched
          · exact mem_vars_of_matchAll (fun arg member _ _ _ steps _ _ => ih arg member steps)
              matched bound
          · cases matched
      | abs other body => cases matched
  | abs binder body ih =>
      cases target with
      | var y => cases matched
      | app other targets => cases matched
      | abs other target =>
          rcases ih matched bound with before | here
          · exact Or.inl before
          · exact Or.inr fun y member => List.mem_cons_of_mem other (here y member)

/-- The substitution of a match binds no stamp beyond those of the target. -/
theorem stampsWithin_of_match? {pattern target : Term} {s : Substitution}
    (matched : pattern.match? target = some s) {bound : Nat} (within : target.StampsWithin bound)
    : s.StampsWithin bound := by
  obtain ⟨found, steps, rfl⟩ := Option.map_eq_some_iff.mp matched
  intro u member
  obtain ⟨x, kept⟩ := Substitution.mem_range_iff.mp member
  obtain ⟨collected, _⟩ := Substitution.get?_ofList_entries.mp kept
  rcases mem_vars_of_matchIn steps collected with none | parts
  · cases none
  · exact fun y hy => within y (parts y hy)

end Term

/-- No premise has a stamp above a bound, or more than so many binders one below the other. -/
def Rulebook.PremisesWithin (book : Rulebook) (bound depth : Nat) : Prop :=
  ∀ rule ∈ book.toList, ∀ premise ∈ rule.premises,
    premise.term.StampsWithin bound ∧ premise.term.binderDepth ≤ depth

/-- A goal's stamps grow by at most the binders of a premise when it is led back to its premises. -/
theorem Rulebook.PremisesWithin.stampsWithin {book : Rulebook} {bound depth : Nat}
    (premises : book.PremisesWithin bound depth) {rule : Rule} (declared : rule ∈ book.toList)
    {goal : Judgment} {s : Substitution}
    (matched : rule.conclusion.term.match? goal.term = some s) {highest : Nat}
    (above : bound ≤ highest) (within : goal.term.StampsWithin highest)
    : ∀ premise ∈ (RuleInstance.mk rule s).premises,
        premise.term.StampsWithin (highest + depth) := by
  intro instantiated member
  obtain ⟨premise, premised, rfl⟩ := List.mem_map.mp member
  obtain ⟨stamps, nested⟩ := premises rule declared premise premised
  have applied := Substitution.stampsWithin_apply (stamps.mono above)
    (Term.stampsWithin_of_match? matched within)
  exact applied.mono (Nat.add_le_add_left nested highest)

namespace Prover

end Prover

end Backchain
