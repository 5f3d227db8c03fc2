import Backchain.Matching
import Backchain.Proofs.Bindings

/-! A match found for a pattern takes the pattern to the target. The bindings collected along the
way are only ever added to, so an equation that holds when an argument has been matched still holds
at the end.
-/

namespace Backchain

namespace BinderPairs

theorem patternIndex?_eq (pairs : BinderPairs) (x : Variable)
    : pairs.patternIndex? x = (pairs.map Prod.fst).idxOf? x := by
  rw [List.idxOf?, List.findIdx?_map]
  rfl

theorem targetIndex?_eq (pairs : BinderPairs) (x : Variable)
    : pairs.targetIndex? x = (pairs.map Prod.snd).idxOf? x := by
  rw [List.idxOf?, List.findIdx?_map]
  rfl

theorem escapes_eq_false {pairs : BinderPairs} {target : Term}
    : pairs.escapes target = false ↔ ∀ x ∈ target.freeVars, x ∉ pairs.map Prod.snd := by
  cases pairs with
  | nil => simp [escapes]
  | cons pair outer =>
      simp only [escapes, List.isEmpty_cons, Bool.not_false, Bool.true_and, List.any_eq_false,
        VarSet.mem_toList, targetIndex?_eq, Bool.not_eq_true, Option.isSome_eq_false_iff,
        List.isNone_idxOf?]

end BinderPairs

namespace Term

/-- A variable is compared with the one already bound, or bound for the first time. -/
theorem bindOrCompare_cases {found result : VarMap Term} {x : Variable} {target : Term}
    (bound : bindOrCompare found x target = some result)
    : (∃ previous,
        found.get? x = some previous
        ∧ previous.nameless = target.nameless
        ∧ result = found)
      ∨ (found.get? x = none ∧ result = found.insert x target) := by
  unfold bindOrCompare at bound
  cases before : found.get? x with
  | none =>
      rw [before] at bound
      exact Or.inr ⟨rfl, (Option.some.inj bound).symm⟩
  | some previous =>
      simp only [before] at bound
      split at bound
      · rename_i same
        exact Or.inl ⟨previous, rfl, alphaEq_iff.mp same, (Option.some.inj bound).symm⟩
      · cases bound

/-- A variable of the pattern matches the variable bound at the same place, or it is free and takes
a term that mentions no variable bound inside the target.
-/
theorem matchIn_var_cases {pairs : BinderPairs} {x : Variable} {target : Term}
    {found result : VarMap Term} (matched : (Term.var x).matchIn pairs target found = some result)
    : (∃ index y,
        (pairs.map Prod.fst).idxOf? x = some index
        ∧ target = .var y
        ∧ (pairs.map Prod.snd).idxOf? y = some index
        ∧ result = found)
      ∨ (x ∉ pairs.map Prod.fst
        ∧ (∀ y ∈ target.freeVars, y ∉ pairs.map Prod.snd)
        ∧ bindOrCompare found x target = some result) := by
  unfold matchIn at matched
  rw [BinderPairs.patternIndex?_eq] at matched
  cases place : (pairs.map Prod.fst).idxOf? x with
  | some index =>
      rw [place] at matched
      cases target with
      | var y =>
          simp only [BinderPairs.targetIndex?_eq] at matched
          split at matched
          · rename_i same
            exact Or.inl ⟨index, y, rfl, rfl, same, (Option.some.inj matched).symm⟩
          · cases matched
      | app head args => cases matched
      | abs binder body => cases matched
  | none =>
      simp only [place] at matched
      split at matched
      · cases matched
      · rename_i inside
        refine Or.inr ⟨List.idxOf?_eq_none_iff.mp place, ?_, matched⟩
        exact BinderPairs.escapes_eq_false.mp (Bool.eq_false_iff.mpr inside)

end Term

-----------------------------------------------------------------------------------------
-- What a match establishes
-----------------------------------------------------------------------------------------

/-- The bindings `result` extend `found` so that the patterns become the targets below the binder
pairs. A new binding is that of a free variable of a pattern, to a term whose variables are free in
a target and not bound around it.
-/
structure Matches (pairs : BinderPairs) (patterns targets : List Term)
    (found result : VarMap Term)
    : Prop where
  kept : ∀ x t, found.get? x = some t → result.get? x = some t
  covered
    : ∀ pattern ∈ patterns, ∀ x ∈ pattern.freeVars, x ∉ pairs.map Prod.fst
      → ∃ t, result.get? x = some t
  added
    : ∀ x t, result.get? x = some t
      → found.get? x = some t
        ∨ (∃ pattern ∈ patterns, x ∈ pattern.freeVars)
          ∧ x ∉ pairs.map Prod.fst
          ∧ ∀ y ∈ t.freeVars,
              (∃ target ∈ targets, y ∈ target.freeVars) ∧ y ∉ pairs.map Prod.snd
  equal
    : patterns.map
        (fun pattern =>
          (pattern.namelessIn (pairs.map Prod.fst)).subst (Substitution.mk result).nameless)
      = targets.map (Term.namelessIn (pairs.map Prod.snd))

namespace Matches

variable {pairs : BinderPairs} {found middle result : VarMap Term}

theorem nil (pairs : BinderPairs) (found : VarMap Term) : Matches pairs [] [] found found where
  kept _ _ before := before
  covered _ member := nomatch member
  added _ _ before := Or.inl before
  equal := rfl

/-- A match of the first pattern and then one of the others make up a match of all. The first stays
matched since its variables are bound by then.
-/
theorem cons {pattern target : Term} {patterns targets : List Term}
    (first : Matches pairs [pattern] [target] found middle)
    (rest : Matches pairs patterns targets middle result)
    : Matches pairs (pattern :: patterns) (target :: targets) found result where
  kept x t before := rest.kept x t (first.kept x t before)
  covered each member x hx absent := by
    rcases List.mem_cons.mp member with rfl | member
    · obtain ⟨t, bound⟩ := first.covered each List.mem_cons_self x hx absent
      exact ⟨t, rest.kept x t bound⟩
    · exact rest.covered each member x hx absent
  added x t bound := by
    rcases rest.added x t bound with earlier | ⟨⟨each, member, hx⟩, absent, closed⟩
    · refine (first.added x t earlier).imp_right ?_
      rintro ⟨⟨each, member, hx⟩, absent, closed⟩
      rw [List.mem_singleton] at member
      subst member
      refine ⟨⟨each, List.mem_cons_self, hx⟩, absent, fun y hy => ?_⟩
      obtain ⟨⟨source, member, free⟩, outside⟩ := closed y hy
      rw [List.mem_singleton] at member
      exact ⟨⟨source, member ▸ List.mem_cons_self, free⟩, outside⟩
    · refine Or.inr ⟨⟨each, List.mem_cons_of_mem _ member, hx⟩, absent, fun y hy => ?_⟩
      obtain ⟨⟨source, member, free⟩, outside⟩ := closed y hy
      exact ⟨⟨source, List.mem_cons_of_mem _ member, free⟩, outside⟩
  equal := by
    have same : (pattern.namelessIn (pairs.map Prod.fst)).subst (Substitution.mk result).nameless
        = (pattern.namelessIn (pairs.map Prod.fst)).subst (Substitution.mk middle).nameless := by
      rw [Term.subst_namelessIn_inj]
      intro x hx absent
      obtain ⟨t, bound⟩ := first.covered pattern List.mem_cons_self x hx absent
      simp [Substitution.nameless, Substitution.get?, bound, rest.kept x t bound]
    have head := first.equal
    simp only [List.map_cons, List.map_nil, List.cons.injEq, and_true] at head
    simp only [List.map_cons, same, head, rest.equal]

theorem app {head : Symbol} {args targets : List Term}
    (inside : Matches pairs args targets found result)
    : Matches pairs [.app head args] [.app head targets] found result where
  kept := inside.kept
  covered each member x hx absent := by
    rw [List.mem_singleton] at member
    subst member
    obtain ⟨arg, member, free⟩ := Term.mem_freeVars_app.mp hx
    exact inside.covered arg member x free absent
  added x t bound := by
    refine (inside.added x t bound).imp_right ?_
    rintro ⟨source, absent, closed⟩
    refine ⟨⟨_, List.mem_cons_self, Term.mem_freeVars_app.mpr source⟩, absent, fun y hy => ?_⟩
    obtain ⟨free, outside⟩ := closed y hy
    exact ⟨⟨_, List.mem_cons_self, Term.mem_freeVars_app.mpr free⟩, outside⟩
  equal := by
    have arguments := inside.equal
    simp only [List.map_cons, List.map_nil, Term.namelessIn, Term.namelessAll_eq_map,
      Nameless.subst, Nameless.substAll_eq_map, List.map_map]
    rw [← arguments]
    rfl

theorem abs {binder other : Variable} {body target : Term}
    (inside : Matches ((binder, other) :: pairs) [body] [target] found result)
    : Matches pairs [.abs binder body] [.abs other target] found result where
  kept := inside.kept
  covered each member x hx absent := by
    rw [List.mem_singleton] at member
    subst member
    obtain ⟨free, inBody⟩ := Term.mem_freeVars_abs.mp hx
    refine inside.covered body List.mem_cons_self x inBody ?_
    rw [List.map_cons, List.mem_cons, not_or]
    exact ⟨free, absent⟩
  added x t bound := by
    refine (inside.added x t bound).imp_right ?_
    rintro ⟨⟨each, member, hx⟩, absent, closed⟩
    rw [List.mem_singleton] at member
    subst member
    rw [List.map_cons, List.mem_cons, not_or] at absent
    refine ⟨⟨_, List.mem_cons_self, Term.mem_freeVars_abs.mpr ⟨absent.1, hx⟩⟩, absent.2, ?_⟩
    intro y hy
    obtain ⟨⟨source, member, free⟩, outside⟩ := closed y hy
    rw [List.mem_singleton] at member
    subst member
    rw [List.map_cons, List.mem_cons, not_or] at outside
    exact ⟨⟨_, List.mem_cons_self, Term.mem_freeVars_abs.mpr ⟨outside.1, free⟩⟩, outside.2⟩
  equal := by
    have bodies := inside.equal
    simp only [List.map_cons, List.map_nil, List.cons.injEq, and_true] at bodies
    simp only [List.map_cons, List.map_nil, Term.namelessIn, Nameless.subst, bodies]

/-- A variable bound in the pattern matches the variable bound at the same place of the target. -/
theorem bound {x y : Variable} {index : Nat} (left : (pairs.map Prod.fst).idxOf? x = some index)
    (right : (pairs.map Prod.snd).idxOf? y = some index)
    : Matches pairs [.var x] [.var y] found found where
  kept _ _ before := before
  covered each member z hz absent := by
    rw [List.mem_singleton] at member
    subst member
    rw [Term.mem_freeVars_var] at hz
    subst hz
    rw [List.idxOf?_eq_none_iff.mpr absent] at left
    cases left
  added _ _ before := Or.inl before
  equal := by
    simp only [List.map_cons, List.map_nil, Term.namelessIn, Nameless.resolve_eq_bound.mpr left,
      Nameless.resolve_eq_bound.mpr right, Nameless.subst]

/-- A free variable of the pattern matches the term it is bound to, if nothing in that term is bound
around it.
-/
theorem free {x : Variable} {target : Term} (absent : x ∉ pairs.map Prod.fst)
    (apart : ∀ y ∈ target.freeVars, y ∉ pairs.map Prod.snd)
    (bound : Term.bindOrCompare found x target = some result)
    : Matches pairs [.var x] [target] found result := by
  have matched : ∀ t, result.get? x = some t → t.nameless = target.nameless
      → [Term.var x].map
          (fun pattern =>
            (pattern.namelessIn (pairs.map Prod.fst)).subst (Substitution.mk result).nameless)
        = [target].map (Term.namelessIn (pairs.map Prod.snd)) := by
    intro t now same
    simp only [List.map_cons, List.map_nil, Term.namelessIn, Nameless.resolve_of_not_mem absent,
      Nameless.subst, Term.namelessIn_of_disjoint apart, ← same]
    simp [Substitution.nameless, Substitution.get?, now]
  rcases Term.bindOrCompare_cases bound with ⟨previous, before, same, rfl⟩ | ⟨new, rfl⟩
  · refine ⟨fun _ _ known => known, ?_, fun _ _ known => Or.inl known, matched _ before same⟩
    intro each member y hy _
    rw [List.mem_singleton] at member
    subst member
    exact ⟨previous, Term.mem_freeVars_var.mp hy ▸ before⟩
  · have now : (found.insert x target).get? x = some target := by simp
    refine ⟨?_, ?_, ?_, matched _ now rfl⟩
    · intro y t known
      have other : y ≠ x := by
        rintro rfl
        rw [new] at known
        cases known
      simp [other, known]
    · intro each member y hy _
      rw [List.mem_singleton] at member
      subst member
      exact ⟨target, Term.mem_freeVars_var.mp hy ▸ now⟩
    · intro y t known
      by_cases same : y = x
      · subst same
        rw [now] at known
        cases known
        exact Or.inr ⟨⟨_, List.mem_cons_self, by simp⟩, absent,
          fun z hz => ⟨⟨target, List.mem_cons_self, hz⟩, apart z hz⟩⟩
      · rw [VarMap.get?_insert, if_neg same] at known
        exact Or.inl known

end Matches

namespace Term

/-- Matching argument lists establishes a match if it does so for each pattern, by induction on the
patterns.
-/
theorem matches_of_matchAll {pairs : BinderPairs} {patterns targets : List Term}
    {found result : VarMap Term}
    (each : ∀ pattern ∈ patterns, ∀ (target : Term) (found result : VarMap Term),
      pattern.matchIn pairs target found = some result
      → Matches pairs [pattern] [target] found result)
    (matched : matchAll pairs patterns targets found = some result)
    : Matches pairs patterns targets found result := by
  induction patterns generalizing targets found with
  | nil =>
      cases targets with
      | nil =>
          simp only [matchAll, Option.some.injEq] at matched
          subst matched
          exact .nil pairs found
      | cons target targets => simp [matchAll] at matched
  | cons pattern patterns ih =>
      cases targets with
      | nil => simp [matchAll] at matched
      | cons target targets =>
          simp only [matchAll] at matched
          obtain ⟨middle, first, rest⟩ := Option.bind_eq_some_iff.mp matched
          refine .cons (each pattern List.mem_cons_self target found middle first) ?_
          exact ih (fun other member => each other (List.mem_cons_of_mem _ member)) rest

/-- Matching establishes a match, by induction on the pattern. -/
theorem matches_of_matchIn {pairs : BinderPairs} {pattern target : Term}
    {found result : VarMap Term} (matched : pattern.matchIn pairs target found = some result)
    : Matches pairs [pattern] [target] found result := by
  induction pattern generalizing pairs target found result with
  | var x =>
      rcases matchIn_var_cases matched with
        ⟨index, y, left, rfl, right, rfl⟩ | ⟨absent, apart, bound⟩
      · exact .bound left right
      · exact .free absent apart bound
  | app head args ih =>
      cases target with
      | var y => simp [matchIn] at matched
      | app other targets =>
          simp only [matchIn] at matched
          split at matched
          · rename_i same
            subst same
            exact .app (matches_of_matchAll (fun arg member _ _ _ => ih arg member) matched)
          · cases matched
      | abs other body => simp [matchIn] at matched
  | abs binder body ih =>
      cases target with
      | var y => simp [matchIn] at matched
      | app other targets => simp [matchIn] at matched
      | abs other target =>
          simp only [matchIn] at matched
          exact .abs (ih matched)

end Term

-----------------------------------------------------------------------------------------
-- The substitution returned
-----------------------------------------------------------------------------------------

namespace Term

/-- The substitution of a match has the bindings collected, short of those of a variable to itself.
-/
theorem match?_cases {pattern target : Term} {s : Substitution}
    (matched : pattern.match? target = some s)
    : ∃ found,
        Matches [] [pattern] [target] VarMap.empty found
        ∧ s = Substitution.ofList found.entries := by
  obtain ⟨found, steps, same⟩ := Option.map_eq_some_iff.mp matched
  exact ⟨found, matches_of_matchIn steps, same.symm⟩

/-- The substitution of a match takes the pattern to the target, up to bound names. -/
theorem alphaEq_of_match? {pattern target : Term} {s : Substitution}
    (matched : pattern.match? target = some s)
    : (s.apply pattern).alphaEq target = true := by
  obtain ⟨found, established, rfl⟩ := match?_cases matched
  have values : (Substitution.ofList found.entries).nameless = (Substitution.mk found).nameless :=
    funext (Substitution.nameless_ofList_entries found)
  have equal := established.equal
  simp only [List.map_cons, List.map_nil, List.cons.injEq, and_true] at equal
  rw [alphaEq_iff, Substitution.nameless_apply, values]
  exact equal

/-- A match is sound: its substitution takes the pattern to the target, binds only free variables of
the pattern, none of them to itself, and holds no variable that is not free in the target.
-/
theorem match?_sound {pattern target : Term} {s : Substitution}
    (matched : pattern.match? target = some s)
    : (s.apply pattern).alphaEq target = true
      ∧ (∀ x ∈ s.domain, x ∈ pattern.freeVars)
      ∧ (∀ x, s.get? x ≠ some (.var x))
      ∧ ∀ x t, s.get? x = some t → ∀ y ∈ t.freeVars, y ∈ target.freeVars := by
  refine ⟨alphaEq_of_match? matched, ?_⟩
  obtain ⟨found, established, rfl⟩ := match?_cases matched
  have origin : ∀ x t, (Substitution.ofList found.entries).get? x = some t
      → x ∈ pattern.freeVars ∧ ∀ y ∈ t.freeVars, y ∈ target.freeVars := by
    intro x t bound
    rcases established.added x t (Substitution.get?_ofList_entries.mp bound).1 with
      earlier | ⟨⟨each, member, hx⟩, _, closed⟩
    · cases earlier
    · rw [List.mem_singleton] at member
      subst member
      refine ⟨hx, fun y hy => ?_⟩
      obtain ⟨⟨source, member, free⟩, _⟩ := closed y hy
      exact List.mem_singleton.mp member ▸ free
  refine ⟨?_, ?_, fun x t bound => (origin x t bound).2⟩
  · intro x member
    obtain ⟨t, bound⟩ := Option.isSome_iff_exists.mp (VarMap.mem_keys.mp member)
    exact (origin x t bound).1
  · intro x self
    exact (Substitution.get?_ofList_entries.mp self).2 rfl

/-- A variable that occurs twice below a binder takes two terms that differ in bound names only, and
a variable that meets its own name is left out of the substitution.
-/
theorem match?_sound_of_repeated_variable
    : let x : Variable := ⟨"x", 0⟩
      let y : Variable := ⟨"y", 0⟩
      let m : Variable := ⟨"m", 0⟩
      let n : Variable := ⟨"n", 0⟩
      let pattern : Term := .abs x (.app "f" [.var x, .var m, .var m, .var n])
      let target : Term :=
        .abs y (.app "f" [.var y, .abs x (.var x), .abs y (.var y), .var n])
      let s := Substitution.singleton m (.abs x (.var x))
      pattern.match? target = some s
        ∧ (s.apply pattern).alphaEq target = true
        ∧ (∀ x ∈ s.domain, x ∈ pattern.freeVars)
        ∧ (∀ x, s.get? x ≠ some (.var x))
        ∧ ∀ x t, s.get? x = some t → ∀ y ∈ t.freeVars, y ∈ target.freeVars := by
  refine ⟨?_, match?_sound ?_⟩ <;> rfl

end Term

end Backchain
