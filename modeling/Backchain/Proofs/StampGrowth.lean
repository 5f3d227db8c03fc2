import Backchain.Proofs.CaptureAvoidance

/-! How far stamps grow. A renamed binder takes a stamp above those that it has to avoid, and its
new name is put in below, where it may force the next binder to take a higher one still. Each binder
on the way adds at most one, so no stamp exceeds those of the inputs by more than the number of
binders around it. Stamps are words of 32 bits, so a substitution can be applied as long as none of
the fresh ones is beyond that.
-/

namespace Backchain

/-- Whether 32 bits can hold the stamp of a variable. -/
def Variable.fits (x : Variable) : Bool := x.stamp < UInt32.size

/-- The highest stamp stays within a bound on all stamps, by list induction. -/
theorem Variable.highestStamp_le {x : Variable} {avoid : List Variable} {bound : Nat}
    (own : x.stamp ≤ bound) (others : ∀ y ∈ avoid, y.stamp ≤ bound)
    : x.highestStamp avoid ≤ bound := by
  induction avoid with
  | nil => exact own
  | cons y rest ih =>
      have first := others y List.mem_cons_self
      have tail := ih fun z member => others z (List.mem_cons_of_mem y member)
      rw [highestStamp]
      split
      · exact Nat.max_le.mpr ⟨first, tail⟩
      · exact tail

namespace Term

mutual
/-- Every variable of a term, at each place where it occurs or is bound. -/
def vars : Term → List Variable
  | .var x => [x]
  | .app _ args => varsAll args
  | .abs binder body => binder :: body.vars

/-- Every variable of the terms of a list. -/
def varsAll : List Term → List Variable
  | [] => []
  | t :: rest => t.vars ++ varsAll rest
end

mutual
/-- The greatest number of binders that stand one below the other. -/
def binderDepth : Term → Nat
  | .var _ => 0
  | .app _ args => greatestBinderDepth args
  | .abs _ body => body.binderDepth + 1

/-- The same over the terms of a list. -/
def greatestBinderDepth : List Term → Nat
  | [] => 0
  | t :: rest => max t.binderDepth (greatestBinderDepth rest)
end

/-- No variable of a term has a stamp above a bound. -/
def StampsWithin (bound : Nat) (t : Term) : Prop := ∀ x ∈ t.vars, x.stamp ≤ bound

theorem mem_varsAll {x : Variable} {ts : List Term}
    : x ∈ varsAll ts ↔ ∃ t ∈ ts, x ∈ t.vars := by
  induction ts with
  | nil => simp [varsAll]
  | cons t rest ih => simp [varsAll, ih]

theorem binderDepth_le_greatest {t : Term} {ts : List Term} (member : t ∈ ts)
    : t.binderDepth ≤ greatestBinderDepth ts := by
  induction ts with
  | nil => cases member
  | cons u rest ih =>
      rw [greatestBinderDepth]
      rcases List.mem_cons.mp member with rfl | later
      · exact Nat.le_max_left _ _
      · exact Nat.le_trans (ih later) (Nat.le_max_right _ _)

/-- A free variable is one of the variables of a term, by induction on the term. -/
theorem mem_vars_of_mem_freeVars {t : Term} {x : Variable} (hx : x ∈ t.freeVars)
    : x ∈ t.vars := by
  induction t with
  | var y => exact List.mem_singleton.mpr (mem_freeVars_var.mp hx)
  | app head args ih =>
      obtain ⟨arg, member, free⟩ := mem_freeVars_app.mp hx
      exact mem_varsAll.mpr ⟨arg, member, ih arg member free⟩
  | abs binder body ih => exact List.mem_cons_of_mem binder (ih (mem_freeVars_abs.mp hx).2)

theorem StampsWithin.mono {low high : Nat} {t : Term} (within : t.StampsWithin low)
    (le : low ≤ high)
    : t.StampsWithin high :=
  fun x member => Nat.le_trans (within x member) le

theorem StampsWithin.arg {bound : Nat} {head : Symbol} {args : List Term}
    (within : (Term.app head args).StampsWithin bound) {arg : Term} (member : arg ∈ args)
    : arg.StampsWithin bound :=
  fun x hx => within x (mem_varsAll.mpr ⟨arg, member, hx⟩)

theorem stampsWithin_abs {bound : Nat} {binder : Variable} {body : Term}
    : (Term.abs binder body).StampsWithin bound
      ↔ binder.stamp ≤ bound ∧ body.StampsWithin bound := by
  simp [StampsWithin, vars]

end Term

namespace Substitution

mutual
/-- Applies a substitution and lists the fresh variables made on the way, in order. -/
def applyTraced (s : Substitution) : Term → Term × List Variable
  | .var x => ((s.get? x).getD (.var x), [])
  | .app head args =>
      let images := applyAllTraced s args
      (.app head images.1, images.2)
  | .abs binder body =>
      let inner := s.below binder body.freeVars
      if inner.isIdentity then (.abs binder body, [])
      else if inner.mentions binder then
        let fresh := inner.freshBinder binder body.freeVars
        let image := applyTraced ⟨inner.bindings.insert binder (.var fresh)⟩ body
        (.abs fresh image.1, fresh :: image.2)
      else
        let image := applyTraced inner body
        (.abs binder image.1, image.2)

/-- Applies a substitution to every term of a list, with the fresh variables of all of them. -/
def applyAllTraced (s : Substitution) : List Term → List Term × List Variable
  | [] => ([], [])
  | t :: rest =>
      let first := applyTraced s t
      let others := applyAllTraced s rest
      (first.1 :: others.1, first.2 ++ others.2)
end

theorem applyAllTraced_eq (s : Substitution) (ts : List Term)
    : s.applyAllTraced ts
      = (ts.map (fun t => (s.applyTraced t).1), ts.flatMap (fun t => (s.applyTraced t).2)) := by
  induction ts with
  | nil => rfl
  | cons t rest ih => simp [applyAllTraced, ih]

/-- Listing the fresh variables does not change the result, by induction on the term. -/
theorem applyTraced_fst (s : Substitution) (t : Term) : (s.applyTraced t).1 = s.apply t := by
  induction t generalizing s with
  | var x => rw [applyTraced, apply]
  | app head args ih =>
      rw [applyTraced, apply, applyAllTraced_eq, applyAll_eq_map]
      exact congrArg (Term.app head) (List.map_congr_left fun arg member => ih arg member s)
  | abs binder body ih =>
      rw [applyTraced, apply]
      split
      · rfl
      · split
        · exact congrArg (Term.abs _) (ih _)
        · exact congrArg (Term.abs _) (ih _)

mutual
/-- Applies a substitution with stamps of 32 bits: there is no result if the stamp of a fresh
variable is beyond the greatest one.
-/
def applyChecked (s : Substitution) : Term → Option Term
  | .var x => some ((s.get? x).getD (.var x))
  | .app head args => (applyAllChecked s args).map (.app head)
  | .abs binder body =>
      let inner := s.below binder body.freeVars
      if inner.isIdentity then some (.abs binder body)
      else if inner.mentions binder then
        let fresh := inner.freshBinder binder body.freeVars
        if fresh.fits then
          (applyChecked ⟨inner.bindings.insert binder (.var fresh)⟩ body).map (.abs fresh)
        else none
      else (applyChecked inner body).map (.abs binder)

/-- Applies a substitution with stamps of 32 bits to every term of a list. -/
def applyAllChecked (s : Substitution) : List Term → Option (List Term)
  | [] => some []
  | t :: rest =>
      (applyChecked s t).bind (fun image => (applyAllChecked s rest).map (image :: ·))
end

/-- A substitution is applied with stamps of 32 bits to terms to each of which it can be applied. -/
theorem applyAllChecked_eq {s : Substitution} {ts : List Term}
    (each : ∀ t ∈ ts, s.applyChecked t
      = if (s.applyTraced t).2.all Variable.fits then some (s.apply t) else none)
    : s.applyAllChecked ts
      = if (s.applyAllTraced ts).2.all Variable.fits then some (s.applyAll ts) else none := by
  induction ts with
  | nil => rfl
  | cons t rest ih =>
      have first := each t List.mem_cons_self
      have others := ih fun u member => each u (List.mem_cons_of_mem t member)
      rw [applyAllChecked, first, others, applyAllTraced, applyAll, List.all_append]
      cases (s.applyTraced t).2.all Variable.fits with
      | false => rfl
      | true => cases (s.applyAllTraced rest).2.all Variable.fits <;> rfl

/-- A substitution is applied with stamps of 32 bits exactly if they can hold the stamp of every
fresh variable, by induction on the term.
-/
theorem applyChecked_eq (s : Substitution) (t : Term)
    : s.applyChecked t
      = if (s.applyTraced t).2.all Variable.fits then some (s.apply t) else none := by
  induction t generalizing s with
  | var x => rfl
  | app head args ih =>
      rw [applyChecked, applyAllChecked_eq fun arg member => ih arg member s, applyTraced, apply]
      cases (s.applyAllTraced args).2.all Variable.fits <;> rfl
  | abs binder body ih =>
      rw [applyChecked, applyTraced, apply]
      split
      · rfl
      · split
        · dsimp only
          rw [ih, List.all_cons]
          generalize (s.below binder body.freeVars).freshBinder binder body.freeVars = fresh
          cases fresh.fits with
          | false => rfl
          | true =>
              rw [Bool.true_and, if_pos rfl]
              split <;> rfl
        · rw [ih]
          split <;> rfl

/-- No variable of a term that a substitution binds has a stamp above a bound. -/
def StampsWithin (bound : Nat) (s : Substitution) : Prop := ∀ u ∈ s.range, u.StampsWithin bound

/-- A fresh binder is one above the stamps of what it avoids, all of which occur in the inputs. -/
theorem stamp_freshBinder_le {bound : Nat} {s : Substitution} {binder : Variable} {body : Term}
    (inTerm : (Term.abs binder body).StampsWithin bound) (inBindings : s.StampsWithin bound)
    : (s.freshBinder binder body.freeVars).stamp ≤ bound + 1 := by
  obtain ⟨own, inBody⟩ := Term.stampsWithin_abs.mp inTerm
  refine Nat.succ_le_succ (Variable.highestStamp_le own fun y member => ?_)
  rw [VarSet.mem_toList, VarSet.mem_union, VarSet.mem_insert, Term.mem_freeVarsAll] at member
  rcases member with (rfl | free) | ⟨u, bound, free⟩
  · exact own
  · exact inBody y (Term.mem_vars_of_mem_freeVars free)
  · exact inBindings u bound y (Term.mem_vars_of_mem_freeVars free)

/-- One step below a binder. The body is dealt with under a binder that is the old one or has been
made for it, by a substitution that puts in nothing else that is new. What is made is a fresh
namesake of the binder, with a stamp higher by at most one than those of the inputs.
-/
structure Descends (s : Substitution) (binder : Variable) (body : Term) (renamed : Variable)
    (inner : Substitution) (made : List Variable)
    : Prop where
  traced
    : s.applyTraced (.abs binder body)
      = (.abs renamed (inner.applyTraced body).1, made ++ (inner.applyTraced body).2)
  named : renamed = binder ∨ renamed ∈ made
  only : ∀ x ∈ made, x = renamed
  put : ∀ u ∈ inner.range, u ∈ s.range ∨ ∃ x ∈ made, u = .var x
  fresh : ∀ x ∈ made, ∃ avoid, x = binder.freshFor avoid
  raised
    : ∀ bound, (Term.abs binder body).StampsWithin bound → s.StampsWithin bound
      → ∀ x ∈ made, x.stamp ≤ bound + 1

theorem mem_range_of_below {s : Substitution} {binder : Variable} {bodyVars : VarSet} {u : Term}
    (member : u ∈ (s.below binder bodyVars).range)
    : u ∈ s.range := by
  obtain ⟨x, found⟩ := mem_range_iff.mp member
  exact mem_range_iff.mpr ⟨x, (get?_below_eq_some.mp found).2⟩

theorem descends_below {s : Substitution} {binder : Variable} {body : Term}
    (occupied : (s.below binder body.freeVars).isIdentity = false)
    (apart : (s.below binder body.freeVars).mentions binder = false)
    : s.Descends binder body binder (s.below binder body.freeVars) [] := by
  constructor
  · simp [applyTraced, occupied, apart]
  · exact Or.inl rfl
  · exact fun x member => nomatch member
  · exact fun u member => Or.inl (mem_range_of_below member)
  · exact fun x member => nomatch member
  · exact fun _ _ _ x member => nomatch member

theorem descends_renamed {s : Substitution} {binder : Variable} {body : Term}
    (occupied : (s.below binder body.freeVars).isIdentity = false)
    (mentioned : (s.below binder body.freeVars).mentions binder = true)
    : s.Descends binder body ((s.below binder body.freeVars).freshBinder binder body.freeVars)
        ⟨(s.below binder body.freeVars).bindings.insert binder
          (.var ((s.below binder body.freeVars).freshBinder binder body.freeVars))⟩
        [(s.below binder body.freeVars).freshBinder binder body.freeVars] := by
  constructor
  · simp [applyTraced, occupied, mentioned]
  · exact Or.inr (List.mem_singleton.mpr rfl)
  · exact fun x member => List.mem_singleton.mp member
  · intro u member
    obtain ⟨y, found⟩ := mem_range_iff.mp member
    rw [get?, VarMap.get?_insert] at found
    split at found
    · exact Or.inr ⟨_, List.mem_singleton.mpr rfl, (Option.some.inj found).symm⟩
    · exact Or.inl (mem_range_of_below (mem_range_iff.mpr ⟨y, found⟩))
  · intro x member
    exact ⟨_, List.mem_singleton.mp member⟩
  · intro bound inTerm inBindings x member
    rw [List.mem_singleton.mp member]
    exact stamp_freshBinder_le inTerm fun u inner => inBindings u (mem_range_of_below inner)

/-- A term below a binder is left as it is, or it is entered in one of the two ways. -/
theorem applyTraced_abs_cases (s : Substitution) (binder : Variable) (body : Term)
    : s.applyTraced (.abs binder body) = (.abs binder body, [])
      ∨ ∃ renamed inner made, s.Descends binder body renamed inner made := by
  cases empty : (s.below binder body.freeVars).isIdentity with
  | true => exact Or.inl (by simp [applyTraced, empty])
  | false =>
      refine Or.inr ?_
      cases mentioned : (s.below binder body.freeVars).mentions binder with
      | true => exact ⟨_, _, _, descends_renamed empty mentioned⟩
      | false => exact ⟨_, _, _, descends_below empty mentioned⟩

/-- Where no stamp was above a bound before, none is more than one above it below the binder. -/
theorem Descends.stampsWithin {s inner : Substitution} {binder renamed : Variable} {body : Term}
    {made : List Variable} {bound : Nat} (descends : s.Descends binder body renamed inner made)
    (inTerm : (Term.abs binder body).StampsWithin bound) (inBindings : s.StampsWithin bound)
    : inner.StampsWithin (bound + 1) := by
  intro u member
  rcases descends.put u member with before | ⟨x, new, rfl⟩
  · exact (inBindings u before).mono (Nat.le_succ bound)
  · intro y hy
    rw [List.mem_singleton.mp hy]
    exact descends.raised bound inTerm inBindings x new

/-- Every variable of the result occurs in the inputs or has been made, by induction on the term. -/
theorem mem_vars_applyTraced {s : Substitution} {t : Term} {x : Variable}
    (hx : x ∈ (s.applyTraced t).1.vars)
    : x ∈ t.vars ∨ (∃ u ∈ s.range, x ∈ u.vars) ∨ x ∈ (s.applyTraced t).2 := by
  induction t generalizing s with
  | var y =>
      rw [applyTraced] at hx
      cases found : s.get? y with
      | none =>
          rw [found] at hx
          exact Or.inl hx
      | some u =>
          rw [found] at hx
          exact Or.inr (Or.inl ⟨u, mem_range_iff.mpr ⟨y, found⟩, hx⟩)
  | app head args ih =>
      rw [applyTraced, applyAllTraced_eq] at hx ⊢
      obtain ⟨image, mapped, inside⟩ := Term.mem_varsAll.mp hx
      obtain ⟨arg, member, rfl⟩ := List.mem_map.mp mapped
      rcases ih arg member inside with old | put | new
      · exact Or.inl (Term.mem_varsAll.mpr ⟨arg, member, old⟩)
      · exact Or.inr (Or.inl put)
      · exact Or.inr (Or.inr (List.mem_flatMap.mpr ⟨arg, member, new⟩))
  | abs binder body ih =>
      rcases s.applyTraced_abs_cases binder body with kept | ⟨renamed, inner, made, descends⟩
      · rw [kept] at hx
        exact Or.inl hx
      · rw [descends.traced] at hx ⊢
        rcases List.mem_cons.mp hx with rfl | inside
        · rcases descends.named with same | new
          · exact Or.inl (same ▸ List.mem_cons_self)
          · exact Or.inr (Or.inr (List.mem_append_left _ new))
        · rcases ih inside with old | ⟨u, member, hu⟩ | new
          · exact Or.inl (List.mem_cons_of_mem binder old)
          · rcases descends.put u member with before | ⟨y, new, rfl⟩
            · exact Or.inr (Or.inl ⟨u, before, hu⟩)
            · rw [List.mem_singleton.mp hu]
              exact Or.inr (Or.inr (List.mem_append_left _ new))
          · exact Or.inr (Or.inr (List.mem_append_right made new))

/-- Every variable that has been made is a binder of the result, by induction on the term. -/
theorem mem_vars_of_made {s : Substitution} {t : Term} {x : Variable}
    (made : x ∈ (s.applyTraced t).2)
    : x ∈ (s.applyTraced t).1.vars := by
  induction t generalizing s with
  | var y =>
      rw [applyTraced] at made
      cases made
  | app head args ih =>
      rw [applyTraced, applyAllTraced_eq] at made ⊢
      obtain ⟨arg, listed, inside⟩ := List.mem_flatMap.mp made
      exact Term.mem_varsAll.mpr ⟨_, List.mem_map_of_mem listed, ih arg listed inside⟩
  | abs binder body ih =>
      rcases s.applyTraced_abs_cases binder body with kept | ⟨renamed, inner, here, descends⟩
      · rw [kept] at made
        cases made
      · rw [descends.traced] at made ⊢
        rcases List.mem_append.mp made with new | later
        · rw [descends.only x new]
          exact List.mem_cons_self
        · exact List.mem_cons_of_mem renamed (ih later)

/-- Every variable that has been made is a fresh namesake of some binder, by induction on the term.
-/
theorem exists_freshFor_of_made {s : Substitution} {t : Term} {x : Variable}
    (made : x ∈ (s.applyTraced t).2)
    : ∃ (binder : Variable) (avoid : List Variable), x = binder.freshFor avoid := by
  induction t generalizing s with
  | var y =>
      rw [applyTraced] at made
      cases made
  | app head args ih =>
      rw [applyTraced, applyAllTraced_eq] at made
      obtain ⟨arg, listed, inside⟩ := List.mem_flatMap.mp made
      exact ih arg listed inside
  | abs binder body ih =>
      rcases s.applyTraced_abs_cases binder body with kept | ⟨renamed, inner, here, descends⟩
      · rw [kept] at made
        cases made
      · rw [descends.traced] at made
        rcases List.mem_append.mp made with new | later
        · exact ⟨binder, descends.fresh x new⟩
        · exact ih later

/-- The stamps made while a substitution is applied exceed a bound on the inputs by at most the
number of nested binders, by induction on the term. Each binder passes a bound that is higher by one
on to its body.
-/
theorem stamp_applyTraced_le {bound : Nat} {s : Substitution} {t : Term}
    (inTerm : t.StampsWithin bound) (inBindings : s.StampsWithin bound) {x : Variable}
    (member : x ∈ (s.applyTraced t).2)
    : x.stamp ≤ bound + t.binderDepth := by
  induction t generalizing s bound with
  | var y =>
      rw [applyTraced] at member
      cases member
  | app head args ih =>
      rw [applyTraced, applyAllTraced_eq] at member
      obtain ⟨arg, listed, inside⟩ := List.mem_flatMap.mp member
      have le := ih arg listed (inTerm.arg listed) inBindings inside
      have deeper : arg.binderDepth ≤ (Term.app head args).binderDepth :=
        Term.binderDepth_le_greatest listed
      exact Nat.le_trans le (Nat.add_le_add_left deeper bound)
  | abs binder body ih =>
      have depth : (Term.abs binder body).binderDepth = body.binderDepth + 1 := by
        rw [Term.binderDepth]
      rcases s.applyTraced_abs_cases binder body with kept | ⟨renamed, inner, made, descends⟩
      · rw [kept] at member
        cases member
      · rw [descends.traced] at member
        rcases List.mem_append.mp member with here | later
        · have le := descends.raised bound inTerm inBindings x here
          omega
        · have inBody := (Term.stampsWithin_abs.mp inTerm).2.mono (Nat.le_succ bound)
          have further := ih inBody (descends.stampsWithin inTerm inBindings) later
          omega

/-- The stamps of the result exceed a bound on the inputs by at most the number of nested binders.
-/
theorem stampsWithin_apply {bound : Nat} {s : Substitution} {t : Term}
    (inTerm : t.StampsWithin bound) (inBindings : s.StampsWithin bound)
    : (s.apply t).StampsWithin (bound + t.binderDepth) := by
  intro x hx
  rw [← s.applyTraced_fst t] at hx
  rcases mem_vars_applyTraced hx with old | ⟨u, member, put⟩ | new
  · exact Nat.le_add_right_of_le (inTerm x old)
  · exact Nat.le_add_right_of_le (inBindings u member x put)
  · exact stamp_applyTraced_le inTerm inBindings new

/-- A fresh variable whose stamp 32 bits can hold gets it by an increment that does not overflow. -/
theorem exists_increment {binder : Variable} {avoid : List Variable}
    (fits : (binder.freshFor avoid).stamp < UInt32.size)
    : ∃ highest : UInt32,
        highest.toNat = binder.highestStamp avoid
        ∧ (highest + 1).toNat = (binder.freshFor avoid).stamp := by
  have above : binder.highestStamp avoid + 1 < UInt32.size := fits
  have held : (UInt32.ofNat (binder.highestStamp avoid)).toNat = binder.highestStamp avoid :=
    UInt32.toNat_ofNat_of_lt (by omega)
  refine ⟨UInt32.ofNat (binder.highestStamp avoid), held, ?_⟩
  rw [UInt32.toNat_add, held, UInt32.toNat_one]
  exact Nat.mod_eq_of_lt above

/-- Stamp growth. If no variable of a term and of the terms that a substitution binds has a stamp
above a bound, then neither the fresh variables made while it is applied nor the variables of the
result have one above the bound by more than the number of nested binders. The fresh variables are
binders of the result, and nothing else in it is new. So if 32 bits can hold that sum, each of them
gets its stamp by adding one, without overflow, to the highest stamp to avoid, and applying the
substitution with stamps of 32 bits gives the same result.
-/
theorem apply_stamps_le {bound : Nat} {s : Substitution} {t : Term}
    (inTerm : ∀ x ∈ t.vars, x.stamp ≤ bound)
    (inBindings : ∀ u ∈ s.range, ∀ x ∈ u.vars, x.stamp ≤ bound)
    : (s.applyTraced t).1 = s.apply t
      ∧ (∀ x ∈ (s.applyTraced t).2, x.stamp ≤ bound + t.binderDepth)
      ∧ (∀ x ∈ (s.apply t).vars, x.stamp ≤ bound + t.binderDepth)
      ∧ (∀ x ∈ (s.applyTraced t).2, x ∈ (s.apply t).vars)
      ∧ (∀ x ∈ (s.apply t).vars,
          x ∈ t.vars ∨ (∃ u ∈ s.range, x ∈ u.vars) ∨ x ∈ (s.applyTraced t).2)
      ∧ (s.applyChecked t = none ↔ ∃ x ∈ (s.applyTraced t).2, UInt32.size ≤ x.stamp)
      ∧ (bound + t.binderDepth < UInt32.size
        → s.applyChecked t = some (s.apply t)
          ∧ ∀ x ∈ (s.applyTraced t).2,
              ∃ (binder : Variable) (avoid : List Variable) (highest : UInt32),
                x = binder.freshFor avoid
                ∧ highest.toNat = binder.highestStamp avoid
                ∧ (highest + 1).toNat = x.stamp) := by
  have made : ∀ x ∈ (s.applyTraced t).2, x.stamp ≤ bound + t.binderDepth :=
    fun x member => stamp_applyTraced_le inTerm inBindings member
  have result := s.applyTraced_fst t
  refine ⟨result, made, stampsWithin_apply inTerm inBindings, ?_, ?_, ?_, fun fits => ⟨?_, ?_⟩⟩
  · intro x member
    rw [← result]
    exact mem_vars_of_made member
  · intro x hx
    rw [← result] at hx
    exact mem_vars_applyTraced hx
  · rw [applyChecked_eq]
    simp [Variable.fits]
  · have held : (s.applyTraced t).2.all Variable.fits = true := by
      rw [List.all_eq_true]
      intro x member
      exact decide_eq_true (Nat.lt_of_le_of_lt (made x member) fits)
    rw [applyChecked_eq, if_pos held]
  · intro x member
    obtain ⟨binder, avoid, rfl⟩ := exists_freshFor_of_made member
    obtain ⟨highest, held, incremented⟩ :=
      exists_increment (Nat.lt_of_le_of_lt (made _ member) fits)
    exact ⟨binder, avoid, highest, rfl, held, incremented⟩

/-- The outer binder avoids the stamp of a term put in, and its new name drives the inner binder one
further, so that the bound is reached.
-/
theorem apply_stamps_le_of_two_binders
    : let x : Variable := ⟨"x", 0⟩
      let next : Variable := ⟨"x", 1⟩
      let y : Variable := ⟨"y", 0⟩
      let z : Variable := ⟨"z", 0⟩
      let s := ofList [(y, .var x), (z, .var next)]
      let t : Term := .abs x (.abs next (.app "f" [.var x, .var y, .var z]))
      (∀ v ∈ t.vars, v.stamp ≤ 1)
        ∧ (∀ u ∈ s.range, ∀ v ∈ u.vars, v.stamp ≤ 1)
        ∧ (s.applyTraced t).2 = [⟨"x", 2⟩, ⟨"x", 3⟩]
        ∧ 1 + t.binderDepth = 3
        ∧ (s.applyTraced t).1 = s.apply t
        ∧ (∀ v ∈ (s.applyTraced t).2, v.stamp ≤ 1 + t.binderDepth)
        ∧ (∀ v ∈ (s.apply t).vars, v.stamp ≤ 1 + t.binderDepth)
        ∧ s.applyChecked t = some (s.apply t)
        ∧ ∀ v ∈ (s.applyTraced t).2,
            ∃ (binder : Variable) (avoid : List Variable) (highest : UInt32),
              v = binder.freshFor avoid
              ∧ highest.toNat = binder.highestStamp avoid
              ∧ (highest + 1).toNat = v.stamp := by
  intro x next y z s t
  have inTerm : ∀ v ∈ t.vars, v.stamp ≤ 1 := by decide
  have inBindings : ∀ u ∈ s.range, ∀ v ∈ u.vars, v.stamp ≤ 1 := by decide
  have fits : 1 + t.binderDepth < UInt32.size := by decide
  obtain ⟨traced, made, result, _, _, _, increments⟩ := apply_stamps_le inTerm inBindings
  exact ⟨inTerm, inBindings, by decide, rfl, traced, made, result, increments fits⟩

end Substitution

end Backchain
