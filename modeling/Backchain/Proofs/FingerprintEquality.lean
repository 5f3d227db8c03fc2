import Backchain.Proofs.AlphaEquivalence

/-! Terms are hashed by the same items exactly when they are equal up to bound names. The items of a
term depend on its nameless form alone, and that form can be read off them: no form's items begin
those of another, so even what follows them is known.
-/

namespace Backchain

namespace Nameless

/-- The items that open a constructor with a number of arguments. -/
def opening (head : Symbol) : Nat → List HashItem
  | 0 => [.tag 2, .symbol head]
  | n + 1 => [.tag 3, .symbol head, .number (n + 1)]

mutual
/-- The items of a nameless term. -/
def items : Nameless → List HashItem
  | .bound index => [.tag 0, .number index]
  | .free x => [.tag 1, .symbol x.name, .number x.stamp]
  | .app head args => opening head args.length ++ itemsAll args
  | .abs body => .tag 4 :: body.items

/-- The items of the terms of a list, one term after the other. -/
def itemsAll : List Nameless → List HashItem
  | [] => []
  | t :: rest => t.items ++ itemsAll rest
end

-----------------------------------------------------------------------------------------
-- Reading a nameless term off its items
-----------------------------------------------------------------------------------------

theorem opening_append_inj {head other : Symbol} {m n : Nat} {rest others : List HashItem}
    (same : opening head m ++ rest = opening other n ++ others)
    : head = other ∧ m = n ∧ rest = others := by
  cases m with
  | zero =>
      cases n with
      | zero => simpa [opening] using same
      | succ n => simp [opening] at same
  | succ m =>
      cases n with
      | zero => simp [opening] at same
      | succ n => simpa [opening, and_assoc] using same

/-- Lists of one length are read off their items if each of their terms is, by list induction. -/
theorem itemsAll_append_inj {ts us : List Nameless} {rest others : List HashItem}
    (each : ∀ t ∈ ts, ∀ (u : Nameless) (rest others : List HashItem),
      t.items ++ rest = u.items ++ others → t = u ∧ rest = others)
    (lengths : ts.length = us.length) (same : itemsAll ts ++ rest = itemsAll us ++ others)
    : ts = us ∧ rest = others := by
  induction ts generalizing us with
  | nil =>
      have empty : us = [] := List.length_eq_zero_iff.mp lengths.symm
      subst empty
      exact ⟨rfl, same⟩
  | cons t tail ih =>
      cases us with
      | nil => simp at lengths
      | cons u targets =>
          simp only [itemsAll, List.append_assoc] at same
          obtain ⟨rfl, behind⟩ := each t List.mem_cons_self u _ _ same
          obtain ⟨rfl, after⟩ :=
            ih (fun t member => each t (List.mem_cons_of_mem _ member))
              (Nat.succ.inj lengths) behind
          exact ⟨rfl, after⟩

/-- A nameless term and what follows it are both read off the items, by induction on the term. The
first item tells the constructor, and the number of arguments tells where they end.
-/
theorem items_append_inj {t u : Nameless} {rest others : List HashItem}
    (same : t.items ++ rest = u.items ++ others)
    : t = u ∧ rest = others := by
  induction t generalizing u rest others with
  | bound index =>
      cases u with
      | bound other => simpa [items] using same
      | app head args => cases args <;> simp [items, opening] at same
      | free _ | abs _ => simp [items] at same
  | free x =>
      cases u with
      | free y =>
          cases x
          cases y
          simpa [items, and_assoc] using same
      | app head args => cases args <;> simp [items, opening] at same
      | bound _ | abs _ => simp [items] at same
  | app head args ih =>
      cases u with
      | app other targets =>
          simp only [items, List.append_assoc] at same
          obtain ⟨rfl, lengths, behind⟩ := opening_append_inj same
          obtain ⟨rfl, after⟩ :=
            itemsAll_append_inj (fun arg member _ _ _ => ih arg member) lengths behind
          exact ⟨rfl, after⟩
      | bound _ | free _ | abs _ => cases args <;> simp [items, opening] at same
  | abs body ih =>
      cases u with
      | abs other =>
          simp only [items, List.cons_append, List.cons.injEq, true_and] at same
          obtain ⟨rfl, after⟩ := ih same
          exact ⟨rfl, after⟩
      | app head args => cases args <;> simp [items, opening] at same
      | bound _ | free _ => simp [items] at same

end Nameless

-----------------------------------------------------------------------------------------
-- Terms, families and judgments
-----------------------------------------------------------------------------------------

namespace Term

theorem fingerprintIn_var (scope : List Variable) (x : Variable)
    : (Term.var x).fingerprintIn scope = (Nameless.resolve scope x).items := by
  simp only [fingerprintIn, Nameless.resolve]
  cases scope.idxOf? x <;> rfl

theorem fingerprintIn_app (scope : List Variable) (head : Symbol) (args : List Term)
    : (Term.app head args).fingerprintIn scope
      = Nameless.opening head args.length ++ fingerprintAll scope args := by
  cases args with
  | nil => rfl
  | cons arg rest => simp [fingerprintIn, fingerprintAll, Nameless.opening]

mutual
/-- The items of a term are those of its nameless form, by induction on the term. -/
theorem fingerprintIn_eq_items (scope : List Variable)
    : ∀ t : Term, t.fingerprintIn scope = (t.namelessIn scope).items
  | .var x => fingerprintIn_var scope x
  | .app head args => by
      rw [fingerprintIn_app, fingerprintAll_eq_itemsAll scope args]
      simp [namelessIn, namelessAll_eq_map, Nameless.items]
  | .abs binder body => by
      rw [fingerprintIn, fingerprintIn_eq_items (binder :: scope) body]
      rfl

/-- The same holds for argument lists. -/
theorem fingerprintAll_eq_itemsAll (scope : List Variable)
    : ∀ ts : List Term, fingerprintAll scope ts = Nameless.itemsAll (namelessAll scope ts)
  | [] => rfl
  | t :: rest => by
      rw [fingerprintAll, fingerprintIn_eq_items scope t, fingerprintAll_eq_itemsAll scope rest]
      rfl
end

theorem fingerprint_eq_items (t : Term) : t.fingerprint = t.nameless.items := by
  rw [fingerprint_eq, fingerprintIn_eq_items]
  rfl

/-- Items that begin with those of a term show the term, up to bound names, and the items after it.
-/
theorem fingerprint_append_eq_iff {t u : Term} {rest others : List HashItem}
    : t.fingerprint ++ rest = u.fingerprint ++ others
      ↔ t.alphaEq u = true ∧ rest = others := by
  rw [fingerprint_eq_items, fingerprint_eq_items, alphaEq_iff]
  constructor
  · exact Nameless.items_append_inj
  · rintro ⟨terms, rfl⟩
    rw [terms]

end Term

theorem Family.fingerprint_inj {f g : Family} : f.fingerprint = g.fingerprint ↔ f = g := by
  cases f
  cases g
  simp [fingerprint]

/-- Hashing agrees with equality: two terms have the same items exactly when they are equal up to
bound names, and two judgments, whose items are those of the term and then those of the family,
exactly when they are equal as judgments.
-/
theorem fingerprint_eq_iff_alphaEq
    : (∀ t u : Term, t.fingerprint = u.fingerprint ↔ t.alphaEq u = true)
      ∧ (∀ j : Judgment, j.fingerprint = j.term.fingerprint ++ j.family.fingerprint)
      ∧ ∀ j k : Judgment, j.fingerprint = k.fingerprint ↔ j.alphaEq k = true := by
  refine ⟨fun t u => ?_, fun j => rfl, fun j k => ?_⟩
  · have alone : t.fingerprint ++ [] = u.fingerprint ++ []
        ↔ t.alphaEq u = true ∧ ([] : List HashItem) = [] :=
      Term.fingerprint_append_eq_iff
    simpa using alone
  · rw [Judgment.fingerprint, Judgment.fingerprint, Term.fingerprint_append_eq_iff,
      Family.fingerprint_inj, Judgment.alphaEq_iff]

end Backchain
