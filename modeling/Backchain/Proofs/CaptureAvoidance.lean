import Backchain.Proofs.AlphaEquivalence

/-! Substitution does not capture. In nameless form it is plain replacement of free variables, so
the names that binders have, or are given on the way, do not matter.
-/

namespace Backchain

namespace Term

/-- The search for an occurrence finds exactly the free variables, by induction on the term. -/
theorem occursFree_iff {x : Variable} {t : Term} : t.occursFree x = true ↔ x ∈ t.freeVars := by
  have list : ∀ ts : List Term, (∀ t ∈ ts, t.occursFree x = true ↔ x ∈ t.freeVars)
      → (occursFreeAny x ts = true ↔ x ∈ freeVarsAll ts) := by
    intro ts each
    induction ts with
    | nil => simp [occursFreeAny, freeVarsAll]
    | cons t rest ih =>
        have tail := ih fun u member => each u (List.mem_cons_of_mem _ member)
        simp [occursFreeAny, freeVarsAll, each t List.mem_cons_self, tail]
  induction t with
  | var y =>
      rw [occursFree, decide_eq_true_eq, mem_freeVars_var]
      exact eq_comm
  | app head args ih => simpa [occursFree, freeVars] using list args ih
  | abs binder body ih => simp [occursFree, ih, ne_comm]

end Term

namespace Substitution

/-- The nameless term that stands for a variable: the form of its binding, or the variable. -/
def nameless (s : Substitution) (x : Variable) : Nameless :=
  ((s.get? x).map Term.nameless).getD (.free x)

theorem apply_var (s : Substitution) (x : Variable)
    : s.apply (.var x) = (s.get? x).getD (.var x) := by
  rw [apply]

theorem nameless_apply_var (s : Substitution) (x : Variable)
    : (s.apply (.var x)).nameless = s.nameless x := by
  rw [apply_var, nameless]
  cases s.get? x <;> rfl

-----------------------------------------------------------------------------------------
-- Below a binder
-----------------------------------------------------------------------------------------

theorem get?_below (s : Substitution) (binder : Variable) (bodyVars : VarSet) (x : Variable)
    : (s.below binder bodyVars).get? x
      = if x ≠ binder ∧ x ∈ bodyVars then s.get? x else none := by
  simp only [get?, below, VarMap.get?_filter, ← VarSet.contains_iff]
  cases s.bindings.get? x with
  | none => simp
  | some t =>
      by_cases shadowed : x = binder
      · simp [Option.filter, shadowed]
      · by_cases member : bodyVars.contains x = true <;> simp [Option.filter, shadowed, member]

theorem get?_below_of_mem {s : Substitution} {binder x : Variable} {bodyVars : VarSet}
    (member : x ∈ bodyVars) (other : x ≠ binder)
    : (s.below binder bodyVars).get? x = s.get? x := by
  rw [get?_below, if_pos ⟨other, member⟩]

theorem get?_below_eq_some {s : Substitution} {binder x : Variable} {bodyVars : VarSet} {t : Term}
    : (s.below binder bodyVars).get? x = some t
      ↔ (x ≠ binder ∧ x ∈ bodyVars) ∧ s.get? x = some t := by
  rw [get?_below]
  by_cases inside : x ≠ binder ∧ x ∈ bodyVars <;> simp [inside]

theorem isIdentity_iff {s : Substitution} : s.isIdentity = true ↔ ∀ x, s.get? x = none := by
  constructor
  · intro empty x
    have entries : s.bindings.entries = [] := by
      simpa [isIdentity, VarMap.isEmpty] using empty
    simp [get?, VarMap.get?, entries, VarMap.lookupEntry]
  · intro unbound
    have same : s.bindings = VarMap.empty := VarMap.ext_get? unbound
    simp [isIdentity, same, VarMap.isEmpty, VarMap.empty]

theorem mem_domain_iff {s : Substitution} {x : Variable}
    : x ∈ s.domain ↔ ∃ t, s.get? x = some t := by
  rw [domain, VarMap.mem_keys, Option.isSome_iff_exists]
  rfl

theorem get?_of_unbound {s : Substitution} {x : Variable} (unbound : x ∉ s.domain)
    : s.get? x = none :=
  Option.eq_none_iff_forall_ne_some.mpr fun t found => unbound (mem_domain_iff.mpr ⟨t, found⟩)

theorem mem_range_iff {s : Substitution} {t : Term}
    : t ∈ s.range ↔ ∃ x, s.get? x = some t := by
  rw [range, VarMap.values, List.mem_map]
  constructor
  · intro listed
    obtain ⟨⟨x, _⟩, member, rfl⟩ := listed
    exact ⟨x, VarMap.mem_entries.mp member⟩
  · intro bound
    obtain ⟨x, found⟩ := bound
    exact ⟨(x, t), VarMap.mem_entries.mpr found, rfl⟩

theorem mentions_iff {s : Substitution} {x : Variable}
    : s.mentions x = true ↔ ∃ y t, s.get? y = some t ∧ x ∈ t.freeVars := by
  simp only [mentions, List.any_eq_true, Term.occursFree_iff, mem_range_iff]
  constructor
  · intro mentioned
    obtain ⟨t, ⟨y, found⟩, hx⟩ := mentioned
    exact ⟨y, t, found, hx⟩
  · intro mentioned
    obtain ⟨y, t, found, hx⟩ := mentioned
    exact ⟨t, ⟨y, found⟩, hx⟩

/-- Without bindings a term stays as it is, by induction on the term. -/
theorem apply_of_isIdentity {s : Substitution} (empty : s.isIdentity = true) (t : Term)
    : s.apply t = t := by
  induction t with
  | var x => rw [apply_var, isIdentity_iff.mp empty x, Option.getD_none]
  | app head args ih =>
      have same : ∀ arg ∈ args, s.apply arg = id arg := fun arg member => ih arg member
      rw [apply, applyAll_eq_map, List.map_congr_left same, List.map_id]
  | abs binder body _ =>
      have below : (s.below binder body.freeVars).isIdentity = true := by
        refine isIdentity_iff.mpr fun x => ?_
        rw [get?_below, isIdentity_iff.mp empty x, ite_self]
      simp [apply, below]

/-- A fresh binder is free neither in the body nor in a term inserted there. -/
theorem freshBinder_not_mem (s : Substitution) (binder : Variable) (bodyVars : VarSet)
    : s.freshBinder binder bodyVars ∉ bodyVars
      ∧ s.freshBinder binder bodyVars ≠ binder
      ∧ ∀ y t, s.get? y = some t → s.freshBinder binder bodyVars ∉ t.freeVars := by
  have fresh := VarSet.freshFor_not_mem binder
    ((bodyVars.insert binder).union (Term.freeVarsAll s.range))
  rw [VarSet.mem_union, VarSet.mem_insert, Term.mem_freeVarsAll, not_or, not_or] at fresh
  exact ⟨fresh.1.2, fresh.1.1, fun y t found hx => fresh.2 ⟨t, mem_range_iff.mpr ⟨y, found⟩, hx⟩⟩

/-- A substitution below a binder. The binder is kept or renamed to a variable that is free in none
of the terms put into the body, and the other variables of the body are replaced as before.
-/
structure Enters (s : Substitution) (binder : Variable) (body : Term) (renamed : Variable)
    (inner : Substitution)
    : Prop where
  applied : s.apply (.abs binder body) = .abs renamed (inner.apply body)
  bound : inner.apply (.var binder) = .var renamed
  others : ∀ x ∈ body.freeVars, x ≠ binder → inner.apply (.var x) = s.apply (.var x)
  fresh : ∀ x ∈ body.freeVars, x ≠ binder → renamed ∉ (s.apply (.var x)).freeVars

/-- The binder keeps its name if nothing put into the body mentions it. A substitution that is empty
below the binder is of this kind.
-/
theorem enters_below {s : Substitution} {binder : Variable} {body : Term}
    (apart : (s.below binder body.freeVars).mentions binder = false)
    : s.Enters binder body binder (s.below binder body.freeVars) := by
  constructor
  · by_cases empty : (s.below binder body.freeVars).isIdentity = true
    · rw [apply_of_isIdentity empty]
      simp [apply, empty]
    · simp [apply, empty, apart]
  · simp [apply_var, get?_below]
  · intro x hx other
    rw [apply_var, apply_var, get?_below_of_mem hx other]
  · intro x hx other mentioned
    rw [apply_var] at mentioned
    cases found : s.get? x with
    | none =>
        rw [found, Option.getD_none, Term.mem_freeVars_var] at mentioned
        exact other mentioned.symm
    | some t =>
        rw [found, Option.getD_some] at mentioned
        have : (s.below binder body.freeVars).mentions binder = true :=
          mentions_iff.mpr ⟨x, t, (get?_below_of_mem hx other).trans found, mentioned⟩
        rw [apart] at this
        cases this

/-- Otherwise the binder is renamed, and its old name is one more variable to replace. -/
theorem enters_renamed {s : Substitution} {binder : Variable} {body : Term}
    (mentioned : (s.below binder body.freeVars).mentions binder = true)
    : s.Enters binder body ((s.below binder body.freeVars).freshBinder binder body.freeVars)
        ⟨(s.below binder body.freeVars).bindings.insert binder
          (.var ((s.below binder body.freeVars).freshBinder binder body.freeVars))⟩ := by
  obtain ⟨outside, _, apart⟩ :=
    freshBinder_not_mem (s.below binder body.freeVars) binder body.freeVars
  constructor
  · have occupied : (s.below binder body.freeVars).isIdentity = false := by
      obtain ⟨y, t, found, _⟩ := mentions_iff.mp mentioned
      rw [Bool.eq_false_iff]
      intro empty
      rw [isIdentity_iff.mp empty y] at found
      cases found
    simp [apply, occupied, mentioned]
  · simp [apply_var, get?]
  · intro x hx other
    have before : (s.below binder body.freeVars).get? x = s.get? x := get?_below_of_mem hx other
    rw [apply_var, apply_var, ← before]
    simp [get?, other]
  · intro x hx other member
    rw [apply_var, ← get?_below_of_mem hx other] at member
    cases found : (s.below binder body.freeVars).get? x with
    | none =>
        rw [found, Option.getD_none, Term.mem_freeVars_var] at member
        exact outside (member ▸ hx)
    | some t =>
        rw [found, Option.getD_some] at member
        exact apart x t found member

/-- Every substitution goes below a binder in one of the two ways. -/
theorem exists_enters (s : Substitution) (binder : Variable) (body : Term)
    : ∃ renamed inner, s.Enters binder body renamed inner := by
  cases mentioned : (s.below binder body.freeVars).mentions binder with
  | false => exact ⟨_, _, enters_below mentioned⟩
  | true => exact ⟨_, _, enters_renamed mentioned⟩

-----------------------------------------------------------------------------------------
-- Substitution in nameless form
-----------------------------------------------------------------------------------------

/-- How a variable fares under a substitution that goes on below binders. A variable bound by
`scope` becomes the variable at the same place in `renamed`. A variable free there becomes a term
that `renamed` captures nothing of, with the nameless form that `value` asks for.
-/
inductive Follows (s : Substitution) (value : Variable → Nameless)
    (scope renamed : List Variable) (x : Variable)
    : Prop
  | bound {index : Nat} {y : Variable} (found : scope.idxOf? x = some index)
    (image : s.apply (.var x) = .var y) (place : renamed.idxOf? y = some index)
    : Follows s value scope renamed x
  | free (absent : x ∉ scope) (apart : ∀ y ∈ (s.apply (.var x)).freeVars, y ∉ renamed)
    (image : (s.apply (.var x)).nameless = value x)
    : Follows s value scope renamed x

/-- Going below one more binder, every variable of the body still fares as it should. The binder
itself is at the innermost place on both sides.
-/
theorem Enters.follows {s inner : Substitution} {binder fresh : Variable} {body : Term}
    {value : Variable → Nameless} {scope renamed : List Variable}
    (enters : s.Enters binder body fresh inner)
    (each : ∀ x ∈ (Term.abs binder body).freeVars, s.Follows value scope renamed x)
    {x : Variable} (hx : x ∈ body.freeVars)
    : inner.Follows value (binder :: scope) (fresh :: renamed) x := by
  by_cases same : x = binder
  · subst same
    have innermost : ∀ (y : Variable) (outer : List Variable), (y :: outer).idxOf? y = some 0 := by
      simp [List.idxOf?_cons]
    exact .bound (innermost x scope) enters.bound (innermost fresh renamed)
  · have outside := enters.fresh x hx same
    cases each x (Term.mem_freeVars_abs.mpr ⟨same, hx⟩) with
    | @bound index y found image place =>
        have other : fresh ≠ y := by
          rintro rfl
          rw [image] at outside
          simp at outside
        have further : (binder :: scope).idxOf? x = some (index + 1) := by
          simp [List.idxOf?_cons, Ne.symm same, found]
        have beside : (fresh :: renamed).idxOf? y = some (index + 1) := by
          simp [List.idxOf?_cons, other, place]
        exact .bound further ((enters.others x hx same).trans image) beside
    | free absent apart image =>
        refine .free (by simp [same, absent]) ?_ ?_
        · intro y hy
          rw [enters.others x hx same] at hy
          rw [List.mem_cons, not_or]
          exact ⟨fun e => outside (e ▸ hy), apart y hy⟩
        · rw [enters.others x hx same, image]

/-- Substitution below binders is replacement in nameless form, by induction on the term. -/
theorem namelessIn_apply {s : Substitution} {value : Variable → Nameless}
    {scope renamed : List Variable} {t : Term}
    (each : ∀ x ∈ t.freeVars, s.Follows value scope renamed x)
    : (s.apply t).namelessIn renamed = (t.namelessIn scope).subst value := by
  induction t generalizing s scope renamed with
  | var x =>
      cases each x (by simp) with
      | bound found image place =>
          rw [image, Term.namelessIn, Term.namelessIn, Nameless.resolve_eq_bound.mpr found,
            Nameless.resolve_eq_bound.mpr place, Nameless.subst]
      | free absent apart image =>
          rw [Term.namelessIn_of_disjoint apart, image, Term.namelessIn,
            Nameless.resolve_of_not_mem absent, Nameless.subst]
  | app head args ih =>
      simp only [apply, applyAll_eq_map, Term.namelessIn, Term.namelessAll_eq_map,
        Nameless.subst, Nameless.substAll_eq_map, List.map_map, Nameless.app.injEq, true_and]
      refine List.map_congr_left fun arg member => ?_
      exact ih arg member fun x hx => each x (Term.mem_freeVars_app.mpr ⟨arg, member, hx⟩)
  | abs binder body ih =>
      obtain ⟨fresh, inner, enters⟩ := exists_enters s binder body
      rw [enters.applied, Term.namelessIn, Term.namelessIn, Nameless.subst]
      exact congrArg Nameless.abs (ih fun x hx => enters.follows each hx)

/-- Substitution is replacement of free variables in nameless form. -/
theorem nameless_apply (s : Substitution) (t : Term)
    : (s.apply t).nameless = t.nameless.subst s.nameless := by
  refine namelessIn_apply fun x _ => .free List.not_mem_nil (fun y _ => List.not_mem_nil) ?_
  exact nameless_apply_var s x

/-- Two substitutions have the same effect on a term, up to bound names, exactly when they agree on
its free variables.
-/
theorem nameless_apply_inj {s o : Substitution} {t : Term}
    : (s.apply t).nameless = (o.apply t).nameless
      ↔ ∀ x ∈ t.freeVars, s.nameless x = o.nameless x := by
  rw [nameless_apply, nameless_apply, Term.nameless, Term.subst_namelessIn_inj]
  simp

/-- Equal judgments stay equal under substitutions that stand for the same terms. -/
theorem alphaEq_instantiate {s o : Substitution} (values : s.nameless = o.nameless)
    {j k : Judgment} (same : j.alphaEq k = true)
    : (j.instantiate s).alphaEq (k.instantiate o) = true := by
  obtain ⟨terms, families⟩ := Judgment.alphaEq_iff.mp same
  refine Judgment.alphaEq_iff.mpr ⟨Term.alphaEq_iff.mpr ?_, families⟩
  calc (s.apply j.term).nameless
      = j.term.nameless.subst s.nameless := nameless_apply s j.term
    _ = k.term.nameless.subst o.nameless := by rw [Term.alphaEq_iff.mp terms, values]
    _ = (o.apply k.term).nameless := (nameless_apply o k.term).symm

-----------------------------------------------------------------------------------------
-- Equal substitutions
-----------------------------------------------------------------------------------------

/-- Equal binding lists bind the same variables, in order, to terms of one nameless form, by list
induction.
-/
theorem sameBindings_iff {left right : List (Variable × Term)}
    : sameBindings left right = true
      ↔ left.map (fun entry => (entry.1, entry.2.nameless))
        = right.map (fun entry => (entry.1, entry.2.nameless)) := by
  induction left generalizing right with
  | nil => cases right <;> simp [sameBindings]
  | cons first rest ih =>
      cases right with
      | nil => simp [sameBindings]
      | cons second others => simp [sameBindings, ih, Term.alphaEq_iff]

/-- Substitutions are equal exactly when they answer every lookup alike, up to bound names. -/
theorem alphaEq_iff_get? {s o : Substitution}
    : s.alphaEq o = true
      ↔ ∀ x, (s.get? x).map Term.nameless = (o.get? x).map Term.nameless := by
  rw [alphaEq, sameBindings_iff]
  constructor
  · intro same x
    have lookups := congrArg (VarMap.lookupEntry x) same
    rwa [VarMap.lookupEntry_map, VarMap.lookupEntry_map] at lookups
  · intro lookups
    refine VarMap.entries_ext (List.pairwise_map.mpr s.bindings.ascending)
      (List.pairwise_map.mpr o.bindings.ascending) fun x => ?_
    rw [VarMap.lookupEntry_map, VarMap.lookupEntry_map]
    exact lookups x

theorem nameless_eq_of_alphaEq {s o : Substitution} (same : s.alphaEq o = true) (x : Variable)
    : s.nameless x = o.nameless x := by
  rw [nameless, nameless, alphaEq_iff_get?.mp same x]

/-- Substitution avoids capture: in nameless form it replaces the free variables of the term by the
nameless bindings, all at once, and so equal substitutions take equal terms to equal terms.
-/
theorem apply_avoids_capture (s : Substitution) (t : Term)
    : (s.apply t).nameless = t.nameless.subst s.nameless
      ∧ ∀ (o : Substitution) (u : Term), s.alphaEq o = true → t.alphaEq u = true
          → (s.apply t).alphaEq (o.apply u) = true := by
  refine ⟨nameless_apply s t, ?_⟩
  intro o u bindings terms
  have values : s.nameless = o.nameless := funext (nameless_eq_of_alphaEq bindings)
  rw [Term.alphaEq_iff, nameless_apply, nameless_apply, values, Term.alphaEq_iff.mp terms]

/-- A binder that would capture `x` is renamed, and other names of bound variables in the term and
in the replacement give an equal result.
-/
theorem apply_avoids_capture_of_renamed_binder
    : let x : Variable := ⟨"x", 0⟩
      let y : Variable := ⟨"y", 0⟩
      let z : Variable := ⟨"z", 0⟩
      let s := singleton y (.app "f" [.var x, .abs x (.var x)])
      let o := singleton y (.app "f" [.var x, .abs z (.var z)])
      let t : Term := .abs x (.app "g" [.var x, .var y])
      let u : Term := .abs z (.app "g" [.var z, .var y])
      s.alphaEq o = true ∧ t.alphaEq u = true ∧ (s.apply t).alphaEq (o.apply u) = true := by
  intro x y z s o t u
  have bindings : s.alphaEq o = true := by decide
  have terms : t.alphaEq u = true := by decide
  exact ⟨bindings, terms, (apply_avoids_capture s t).2 o u bindings terms⟩

end Substitution

end Backchain
