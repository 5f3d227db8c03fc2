import Backchain.Variable

/-! Finite maps keyed by variables. The entries are kept in the order of their keys, so a map has
one form, and two maps that answer every lookup alike are equal.
-/

namespace Backchain

/-- A finite map from variables, held as entries with strictly ascending keys. -/
structure VarMap (β : Type) where
  entries : List (Variable × β)
  ascending : entries.Pairwise (fun a b => a.1 < b.1)

namespace VarMap

variable {β : Type}

-----------------------------------------------------------------------------------------
-- Entry lists
-----------------------------------------------------------------------------------------

/-- Places an entry at the position of its key, over any entry already there. -/
def insertEntry (x : Variable) (b : β) : List (Variable × β) → List (Variable × β)
  | [] => [(x, b)]
  | (k, c) :: rest =>
      if x < k then (x, b) :: (k, c) :: rest
      else if x = k then (x, b) :: rest
      else (k, c) :: insertEntry x b rest

/-- The value stored under a key. -/
def lookupEntry (x : Variable) : List (Variable × β) → Option β
  | [] => none
  | (k, c) :: rest => if x = k then some c else lookupEntry x rest

/-- Every entry after an insertion is the new one or an old one, by induction on the list. -/
theorem mem_insertEntry {x : Variable} {b : β} {entries : List (Variable × β)}
    {entry : Variable × β} (hm : entry ∈ insertEntry x b entries)
    : entry = (x, b) ∨ entry ∈ entries := by
  induction entries with
  | nil => exact Or.inl (List.mem_singleton.mp hm)
  | cons first rest ih =>
      obtain ⟨k, c⟩ := first
      simp only [insertEntry] at hm
      split at hm
      · exact List.mem_cons.mp hm
      · split at hm
        · rcases List.mem_cons.mp hm with h | h
          · exact Or.inl h
          · exact Or.inr (List.mem_cons_of_mem _ h)
        · rcases List.mem_cons.mp hm with h | h
          · exact Or.inr (h ▸ List.mem_cons_self)
          · exact (ih h).imp_right (List.mem_cons_of_mem _)

/-- Insertion keeps the keys ascending, by induction on the list. -/
theorem pairwise_insertEntry (x : Variable) (b : β) {entries : List (Variable × β)}
    (h : entries.Pairwise (fun a b => a.1 < b.1))
    : (insertEntry x b entries).Pairwise (fun a b => a.1 < b.1) := by
  induction entries with
  | nil => simp [insertEntry]
  | cons first rest ih =>
      obtain ⟨k, c⟩ := first
      obtain ⟨hk, hr⟩ := List.pairwise_cons.mp h
      simp only [insertEntry]
      split
      · rename_i hlt
        refine List.pairwise_cons.mpr ⟨fun entry hm => ?_, h⟩
        rcases List.mem_cons.mp hm with rfl | hm
        · exact hlt
        · exact Variable.lt_trans hlt (hk entry hm)
      · rename_i hnlt
        split
        · rename_i he
          exact List.pairwise_cons.mpr ⟨fun entry hm => he ▸ hk entry hm, hr⟩
        · rename_i hne
          refine List.pairwise_cons.mpr ⟨fun entry hm => ?_, ih hr⟩
          rcases mem_insertEntry hm with rfl | hm
          · rcases Variable.lt_trichotomy x k with h | h | h
            · exact absurd h hnlt
            · exact absurd h hne
            · exact h
          · exact hk entry hm

/-- A key below all keys of an entry list is not found in it. -/
theorem lookupEntry_eq_none {x : Variable} {entries : List (Variable × β)}
    (h : ∀ entry ∈ entries, x < entry.1)
    : lookupEntry x entries = none := by
  induction entries with
  | nil => rfl
  | cons first rest ih =>
      have hne : x ≠ first.1 := Variable.ne_of_lt (h first List.mem_cons_self)
      simp only [lookupEntry, hne, if_false]
      exact ih fun entry hm => h entry (List.mem_cons_of_mem _ hm)

/-- Lookup finds the changed value where it found the value before, by list induction. -/
theorem lookupEntry_map {γ : Type} (f : β → γ) (entries : List (Variable × β)) (x : Variable)
    : lookupEntry x (entries.map (fun entry => (entry.1, f entry.2)))
      = (lookupEntry x entries).map f := by
  induction entries with
  | nil => rfl
  | cons first rest ih =>
      simp only [List.map_cons, lookupEntry]
      split
      · rfl
      · exact ih

/-- Lookup after insertion finds the new value under its key and the old values elsewhere. -/
theorem lookupEntry_insertEntry (x : Variable) (b : β) (entries : List (Variable × β))
    (h : entries.Pairwise (fun a b => a.1 < b.1)) (y : Variable)
    : lookupEntry y (insertEntry x b entries)
      = if y = x then some b else lookupEntry y entries := by
  induction entries with
  | nil => simp [insertEntry, lookupEntry]
  | cons first rest ih =>
      obtain ⟨k, c⟩ := first
      obtain ⟨_, hr⟩ := List.pairwise_cons.mp h
      simp only [insertEntry]
      split
      · simp only [lookupEntry]
      · split
        · rename_i he
          subst he
          by_cases hy : y = x <;> simp [lookupEntry, hy]
        · rename_i hne
          simp only [lookupEntry, ih hr]
          by_cases hy : y = k
          · subst hy
            simp [show ¬ y = x from fun e => hne e.symm]
          · simp [hy]

/-- In an ascending entry list, an entry is a member exactly when its key finds its value. -/
theorem mem_iff_lookupEntry {x : Variable} {b : β} {entries : List (Variable × β)}
    (h : entries.Pairwise (fun a b => a.1 < b.1))
    : (x, b) ∈ entries ↔ lookupEntry x entries = some b := by
  induction entries with
  | nil => simp [lookupEntry]
  | cons first rest ih =>
      obtain ⟨k, c⟩ := first
      obtain ⟨hk, hr⟩ := List.pairwise_cons.mp h
      simp only [lookupEntry, List.mem_cons]
      by_cases he : x = k
      · subst he
        simp only [if_true, Prod.mk.injEq, true_and, Option.some.injEq]
        constructor
        · rintro (rfl | hm)
          · rfl
          · exact absurd (hk _ hm) (Variable.lt_irrefl _)
        · exact fun e => Or.inl e.symm
      · simp only [he, if_false, Prod.mk.injEq, false_and, false_or]
        exact ih hr

/-- Ascending entry lists that answer every lookup alike are equal, by induction on both. -/
theorem entries_ext {left right : List (Variable × β)}
    (hl : left.Pairwise (fun a b => a.1 < b.1)) (hr : right.Pairwise (fun a b => a.1 < b.1))
    (h : ∀ x, lookupEntry x left = lookupEntry x right)
    : left = right := by
  induction left generalizing right with
  | nil =>
      cases right with
      | nil => rfl
      | cons first rest => simpa [lookupEntry] using h first.1
  | cons first rest ih =>
      obtain ⟨k, c⟩ := first
      cases right with
      | nil => simpa [lookupEntry] using h k
      | cons second others =>
          obtain ⟨k', c'⟩ := second
          obtain ⟨hk, hrest⟩ := List.pairwise_cons.mp hl
          obtain ⟨hk', hothers⟩ := List.pairwise_cons.mp hr
          have key : k = k' := by
            rcases Variable.lt_trichotomy k k' with hlt | he | hlt
            · have hnone : lookupEntry k ((k', c') :: others) = none := by
                refine lookupEntry_eq_none fun entry hm => ?_
                rcases List.mem_cons.mp hm with rfl | hm
                · exact hlt
                · exact Variable.lt_trans hlt (hk' entry hm)
              have := h k
              rw [hnone] at this
              simp [lookupEntry] at this
            · exact he
            · have hnone : lookupEntry k' ((k, c) :: rest) = none := by
                refine lookupEntry_eq_none fun entry hm => ?_
                rcases List.mem_cons.mp hm with rfl | hm
                · exact hlt
                · exact Variable.lt_trans hlt (hk entry hm)
              have := h k'
              rw [hnone] at this
              simp [lookupEntry] at this
          subst key
          have value : c = c' := by simpa [lookupEntry] using h k
          subst value
          congr 1
          refine ih hrest hothers fun x => ?_
          by_cases hx : x = k
          · subst hx
            rw [lookupEntry_eq_none hk, lookupEntry_eq_none hk']
          · simpa [lookupEntry, hx] using h x

-----------------------------------------------------------------------------------------
-- Maps
-----------------------------------------------------------------------------------------

/-- The map with no entries. -/
def empty : VarMap β := ⟨[], List.Pairwise.nil⟩

instance : Inhabited (VarMap β) := ⟨empty⟩

/-- The value of a variable, if it has one. -/
def get? (m : VarMap β) (x : Variable) : Option β := lookupEntry x m.entries

/-- Whether a variable has a value. -/
def contains (m : VarMap β) (x : Variable) : Bool := (m.get? x).isSome

/-- The map with `x` set to `b`. -/
def insert (m : VarMap β) (x : Variable) (b : β) : VarMap β :=
  ⟨insertEntry x b m.entries, pairwise_insertEntry x b m.ascending⟩

/-- The entries whose key and value pass a test. -/
def filter (m : VarMap β) (keep : Variable → β → Bool) : VarMap β :=
  ⟨m.entries.filter (fun entry => keep entry.1 entry.2), m.ascending.filter _⟩

/-- The map without `x`. -/
def erase (m : VarMap β) (x : Variable) : VarMap β := m.filter (fun y _ => y ≠ x)

/-- The variables that have a value, in order. -/
def keys (m : VarMap β) : List Variable := m.entries.map Prod.fst

/-- The values, in the order of their variables. -/
def values (m : VarMap β) : List β := m.entries.map Prod.snd

/-- The number of entries. -/
def size (m : VarMap β) : Nat := m.entries.length

/-- Whether there are no entries. -/
def isEmpty (m : VarMap β) : Bool := m.entries.isEmpty

/-- Maps that answer every lookup alike are equal. -/
theorem ext_get? {m n : VarMap β} (h : ∀ x, m.get? x = n.get? x) : m = n := by
  cases m; cases n
  simp only [mk.injEq]
  exact entries_ext (by assumption) (by assumption) h

@[simp] theorem get?_empty (x : Variable) : (empty : VarMap β).get? x = none := rfl

@[simp] theorem get?_insert (m : VarMap β) (x : Variable) (b : β) (y : Variable)
    : (m.insert x b).get? y = if y = x then some b else m.get? y :=
  lookupEntry_insertEntry x b m.entries m.ascending y

/-- Lookup in a filtered map drops the values that fail the test. -/
theorem get?_filter (m : VarMap β) (keep : Variable → β → Bool) (x : Variable)
    : (m.filter keep).get? x = (m.get? x).filter (keep x) := by
  apply Option.ext
  intro b
  simp only [get?, Option.filter_eq_some_iff]
  rw [← mem_iff_lookupEntry (m.filter keep).ascending, ← mem_iff_lookupEntry m.ascending]
  exact List.mem_filter

@[simp] theorem get?_erase (m : VarMap β) (x y : Variable)
    : (m.erase x).get? y = if y = x then none else m.get? y := by
  simp only [erase, get?_filter]
  by_cases h : y = x
  · simp [h]
  · cases m.get? y <;> simp [h]

/-- An entry is listed exactly when its key finds its value. -/
theorem mem_entries {m : VarMap β} {x : Variable} {b : β}
    : (x, b) ∈ m.entries ↔ m.get? x = some b :=
  mem_iff_lookupEntry m.ascending

/-- A variable is listed as a key exactly when it has a value. -/
theorem mem_keys {m : VarMap β} {x : Variable}
    : x ∈ m.keys ↔ (m.get? x).isSome := by
  simp only [keys, List.mem_map, Option.isSome_iff_exists]
  constructor
  · rintro ⟨⟨y, b⟩, hm, rfl⟩
    exact ⟨b, mem_entries.mp hm⟩
  · rintro ⟨b, hb⟩
    exact ⟨(x, b), mem_entries.mpr hb, rfl⟩

end VarMap

end Backchain
