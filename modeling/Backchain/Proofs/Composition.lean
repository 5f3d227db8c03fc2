import Backchain.Proofs.Bindings

/-! One substitution after another. Applying two substitutions in turn may rename a binder twice,
while their composition renames it once or not at all, so the results are equal up to bound names.
-/

namespace Backchain

namespace Substitution

/-- The composition binds the variables of `s` to their terms under `o`, and then those variables of
`o` that `s` does not bind.
-/
theorem andThen_eq (s o : Substitution)
    : s.andThen o
      = (o.bindings.filter (fun x _ => !s.contains x)).entries.foldl
          (fun acc entry => acc.bind entry.1 entry.2)
          ((s.toList.map (fun entry => (entry.1, o.apply entry.2))).foldl
            (fun acc entry => acc.bind entry.1 entry.2) identity) := by
  have kept : (fun (acc : Substitution) (entry : Variable × Term) =>
        if s.contains entry.1 then acc else acc.bind entry.1 entry.2)
      = fun acc entry => if !s.contains entry.1 then acc.bind entry.1 entry.2 else acc := by
    funext acc entry
    cases s.contains entry.1 <;> rfl
  rw [andThen, kept, List.foldl_map, VarMap.filter, List.foldl_filter]
  rfl

/-- Under the composition a variable stands for what `o` makes of the term it stands for under `s`.
-/
theorem nameless_andThen (s o : Substitution) (x : Variable)
    : (s.andThen o).nameless x = (s.nameless x).subst o.nameless := by
  have ascending : (s.toList.map (fun entry => (entry.1, o.apply entry.2))).Pairwise
      (fun a b => a.1 < b.1) :=
    List.pairwise_map.mpr s.bindings.ascending
  have later : VarMap.lookupEntry x (o.bindings.filter (fun x _ => !s.contains x)).entries
      = (o.get? x).filter (fun _ => !(s.get? x).isSome) :=
    VarMap.get?_filter o.bindings (fun x _ => !s.contains x) x
  have earlier : VarMap.lookupEntry x (s.toList.map (fun entry => (entry.1, o.apply entry.2)))
      = (s.get? x).map o.apply :=
    VarMap.lookupEntry_map o.apply s.toList x
  rw [andThen_eq, nameless_foldl_bind (VarMap.ascending _), nameless_foldl_bind ascending, later,
    earlier]
  cases bound : s.get? x with
  | some t =>
      have image : s.nameless x = t.nameless := by rw [nameless, bound]; rfl
      have skipped : (o.get? x).filter (fun _ => !(some t).isSome) = none := by
        cases o.get? x <;> rfl
      rw [skipped, image]
      exact nameless_apply o t
  | none =>
      have image : s.nameless x = .free x := by rw [nameless, bound]; rfl
      have whole : (o.get? x).filter (fun _ => !(none : Option Term).isSome) = o.get? x := by
        cases o.get? x <;> rfl
      rw [whole, image]
      rfl

theorem nameless_apply_andThen (s o : Substitution) (t : Term)
    : ((s.andThen o).apply t).nameless = (s.apply t).nameless.subst o.nameless := by
  have values : (s.andThen o).nameless = fun x => (s.nameless x).subst o.nameless :=
    funext (nameless_andThen s o)
  rw [nameless_apply, values, nameless_apply, Nameless.subst_subst]

/-- The composition has the effect of one substitution after the other. -/
theorem apply_andThen (s o : Substitution) (t : Term)
    : ((s.andThen o).apply t).alphaEq (o.apply (s.apply t)) = true := by
  have values : (s.andThen o).nameless = fun x => (s.nameless x).subst o.nameless :=
    funext (nameless_andThen s o)
  rw [Term.alphaEq_iff]
  calc ((s.andThen o).apply t).nameless
      = t.nameless.subst (fun x => (s.nameless x).subst o.nameless) := by
        rw [nameless_apply, values]
    _ = (t.nameless.subst s.nameless).subst o.nameless := (Nameless.subst_subst _ _ _).symm
    _ = (o.apply (s.apply t)).nameless := by rw [nameless_apply, nameless_apply]

-- the first substitution renames the binder and the second does not name it back
example
    : let x : Variable := ⟨"x", 0⟩
      let y : Variable := ⟨"y", 0⟩
      let s := singleton y (.var x)
      let o := singleton x (.var y)
      let t : Term := .abs x (.app "f" [.var x, .var y])
      let renamed : Variable := ⟨"x", 1⟩
      (s.andThen o).apply t = t
        ∧ o.apply (s.apply t) = .abs renamed (.app "f" [.var renamed, .var y]) := by
  constructor <;> rfl

end Substitution

end Backchain
