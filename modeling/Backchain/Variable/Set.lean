import Backchain.Variable.Map

/-! Finite sets of variables, listed in order. Two sets with the same members are equal. -/

namespace Backchain

/-- A finite set of variables: the keys of a map that stores nothing under them. -/
structure VarSet where
  members : VarMap Unit

namespace VarSet

/-- The set with no members. -/
def empty : VarSet := ⟨VarMap.empty⟩

instance : Inhabited VarSet := ⟨empty⟩

/-- The set with `x` added. -/
def insert (s : VarSet) (x : Variable) : VarSet := ⟨s.members.insert x ()⟩

/-- The set whose one member is `x`. -/
def singleton (x : Variable) : VarSet := empty.insert x

/-- The set without `x`. -/
def erase (s : VarSet) (x : Variable) : VarSet := ⟨s.members.erase x⟩

/-- The members in order. -/
def toList (s : VarSet) : List Variable := s.members.keys

/-- Whether `x` is a member. -/
def contains (s : VarSet) (x : Variable) : Bool := s.members.contains x

/-- Whether there are no members. -/
def isEmpty (s : VarSet) : Bool := s.members.isEmpty

/-- The members of a list of variables. -/
def ofList : List Variable → VarSet
  | [] => empty
  | x :: rest => (ofList rest).insert x

/-- The members of either set. -/
def union (s t : VarSet) : VarSet := s.toList.foldr (fun x u => u.insert x) t

/-- The members of `s` that are not in `t`. -/
def diff (s t : VarSet) : VarSet := ⟨s.members.filter (fun x _ => !t.contains x)⟩

instance : Membership Variable VarSet where
  mem s x := s.contains x = true

instance (x : Variable) (s : VarSet) : Decidable (x ∈ s) :=
  inferInstanceAs (Decidable (s.contains x = true))

/-- The Boolean test decides membership. -/
theorem contains_iff {s : VarSet} {x : Variable} : s.contains x = true ↔ x ∈ s := Iff.rfl

/-- Sets with the same members are equal. -/
theorem ext {s t : VarSet} (h : ∀ x, x ∈ s ↔ x ∈ t) : s = t := by
  cases s with
  | mk s =>
      cases t with
      | mk t =>
          congr 1
          refine VarMap.ext_get? fun x => ?_
          have hx := h x
          simp only [← contains_iff, contains, VarMap.contains] at hx
          cases hs : s.get? x <;> cases ht : t.get? x <;> simp_all

@[simp] theorem not_mem_empty (x : Variable) : ¬ x ∈ empty := by
  simp [← contains_iff, contains, VarMap.contains, empty]

@[simp] theorem mem_insert {s : VarSet} {x y : Variable}
    : y ∈ s.insert x ↔ y = x ∨ y ∈ s := by
  simp only [← contains_iff, contains, VarMap.contains, insert, VarMap.get?_insert]
  by_cases h : y = x <;> simp [h]

@[simp] theorem mem_singleton {x y : Variable} : y ∈ singleton x ↔ y = x := by
  simp [singleton]

@[simp] theorem mem_erase {s : VarSet} {x y : Variable}
    : y ∈ s.erase x ↔ y ≠ x ∧ y ∈ s := by
  simp only [← contains_iff, contains, VarMap.contains, erase, VarMap.get?_erase]
  by_cases h : y = x <;> simp [h]

@[simp] theorem mem_toList {s : VarSet} {x : Variable} : x ∈ s.toList ↔ x ∈ s :=
  VarMap.mem_keys

@[simp] theorem mem_ofList {xs : List Variable} {y : Variable}
    : y ∈ ofList xs ↔ y ∈ xs := by
  induction xs with
  | nil => simp [ofList]
  | cons x rest ih => simp [ofList, ih]

@[simp] theorem mem_union {s t : VarSet} {x : Variable}
    : x ∈ s.union t ↔ x ∈ s ∨ x ∈ t := by
  have fold : ∀ xs : List Variable,
      x ∈ xs.foldr (fun x (u : VarSet) => u.insert x) t ↔ x ∈ xs ∨ x ∈ t := by
    intro xs
    induction xs with
    | nil => simp
    | cons y rest ih => simp [ih, or_assoc]
  simpa only [union, mem_toList] using fold s.toList

@[simp] theorem mem_diff {s t : VarSet} {x : Variable}
    : x ∈ s.diff t ↔ x ∈ s ∧ ¬ x ∈ t := by
  simp only [← contains_iff, diff, contains, VarMap.contains, VarMap.get?_filter]
  cases s.members.get? x <;> simp

/-- A fresh variable for the listed members of a set is not one of them. -/
theorem freshFor_not_mem (x : Variable) (s : VarSet) : ¬ x.freshFor s.toList ∈ s :=
  fun h => Variable.freshFor_not_mem x s.toList (mem_toList.mpr h)

end VarSet

end Backchain
