/-! Variables: a name and a stamp, their order, their written form, and the choice of a variable
that avoids given ones. The main statement is that a fresh variable is none of those it avoids.
-/

namespace Backchain

/-- The names of variables, constructors, families and rules. Symbols are compared code point by
code point.
-/
abbrev Symbol := String

/-- A variable is a name together with a stamp. The stamp tells apart variables that renaming
derives from one name; a variable written by hand has stamp zero.
-/
structure Variable where
  name : Symbol
  stamp : Nat := 0
deriving DecidableEq, Inhabited

namespace Variable

/-- The written form: the bare name for stamp zero, else the name, a hash sign and the stamp. -/
def display (x : Variable) : String :=
  if x.stamp = 0 then x.name else x.name ++ "#" ++ toString x.stamp

-----------------------------------------------------------------------------------------
-- Order
-----------------------------------------------------------------------------------------

/-- Variables are ordered by name, and namesakes by stamp. -/
instance : LT Variable where
  lt x y := x.name < y.name ∨ x.name = y.name ∧ x.stamp < y.stamp

instance (x y : Variable) : Decidable (x < y) :=
  inferInstanceAs (Decidable (x.name < y.name ∨ x.name = y.name ∧ x.stamp < y.stamp))

/-- The order unfolds to its lexicographic reading. -/
theorem lt_iff {x y : Variable}
    : x < y ↔ x.name < y.name ∨ x.name = y.name ∧ x.stamp < y.stamp :=
  Iff.rfl

/-- No variable precedes itself. -/
theorem lt_irrefl (x : Variable) : ¬ x < x := by
  intro h
  rcases h with h | ⟨_, h⟩
  · exact String.lt_irrefl _ h
  · exact Nat.lt_irrefl _ h

/-- The order is transitive, by cases on which component decides. -/
theorem lt_trans {x y z : Variable} (hxy : x < y) (hyz : y < z) : x < z := by
  rcases hxy with hxy | ⟨hxy, sxy⟩
  · rcases hyz with hyz | ⟨hyz, _⟩
    · exact Or.inl (String.lt_trans hxy hyz)
    · exact Or.inl (hyz ▸ hxy)
  · rcases hyz with hyz | ⟨hyz, syz⟩
    · exact Or.inl (hxy ▸ hyz)
    · exact Or.inr ⟨hxy.trans hyz, Nat.lt_trans sxy syz⟩

/-- Of two variables one precedes the other, or they are equal. -/
theorem lt_trichotomy (x y : Variable) : x < y ∨ x = y ∨ y < x := by
  by_cases hn : x.name = y.name
  · rcases Nat.lt_trichotomy x.stamp y.stamp with hs | hs | hs
    · exact Or.inl (Or.inr ⟨hn, hs⟩)
    · refine Or.inr (Or.inl ?_)
      cases x; cases y; simp_all
    · exact Or.inr (Or.inr (Or.inr ⟨hn.symm, hs⟩))
  · by_cases hl : x.name < y.name
    · exact Or.inl (Or.inl hl)
    · refine Or.inr (Or.inr (Or.inl ?_))
      rcases String.le_total x.name y.name with h | h
      · exact absurd (String.le_antisymm h (String.not_lt.mp hl)) hn
      · exact Decidable.byContradiction fun hc =>
          hn (String.le_antisymm (String.not_lt.mp hc) h)

/-- A variable never equals one that it precedes. -/
theorem ne_of_lt {x y : Variable} (h : x < y) : x ≠ y :=
  fun e => lt_irrefl y (e ▸ h)

/-- Two variables never precede each other. -/
theorem lt_asymm {x y : Variable} (h : x < y) : ¬ y < x :=
  fun h' => lt_irrefl x (lt_trans h h')

-----------------------------------------------------------------------------------------
-- Fresh variables
-----------------------------------------------------------------------------------------

/-- The highest stamp among `x` and its namesakes in a list. -/
def highestStamp (x : Variable) : List Variable → Nat
  | [] => x.stamp
  | y :: rest =>
      if y.name = x.name then max y.stamp (highestStamp x rest) else highestStamp x rest

/-- The variable of the same name whose stamp is one above every stamp to avoid. -/
def freshFor (x : Variable) (avoid : List Variable) : Variable :=
  { x with stamp := x.highestStamp avoid + 1 }

/-- The highest stamp bounds that of every namesake, by induction on the list. -/
theorem stamp_le_highestStamp {x y : Variable} {avoid : List Variable} (hm : y ∈ avoid)
    (hn : y.name = x.name)
    : y.stamp ≤ x.highestStamp avoid := by
  induction avoid with
  | nil => cases hm
  | cons z rest ih =>
      rcases List.mem_cons.mp hm with rfl | hm
      · simp only [highestStamp, hn, if_true]
        exact Nat.le_max_left _ _
      · have := ih hm
        simp only [highestStamp]
        split
        · exact Nat.le_trans this (Nat.le_max_right _ _)
        · exact this

/-- A fresh variable is none of those it avoids, by comparing stamps. -/
theorem freshFor_not_mem (x : Variable) (avoid : List Variable)
    : x.freshFor avoid ∉ avoid := by
  intro hm
  have h := stamp_le_highestStamp (x := x) hm rfl
  exact Nat.not_succ_le_self _ h

end Variable

end Backchain
