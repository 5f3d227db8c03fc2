import Backchain.Term

/-! The stream of items by which a term is hashed. A bound variable is known only by its distance
to its binder, so the stream does not show the names of binders.
-/

namespace Backchain

/-- One item of a hash stream. -/
inductive HashItem where
  | tag (code : Nat)
  | symbol (name : Symbol)
  | number (n : Nat)
deriving DecidableEq

namespace Term

mutual
/-- The items of a term below the given binders, innermost first. -/
def fingerprintIn (bound : List Variable) : Term → List HashItem
  | .var x =>
      match bound.idxOf? x with
      | some distance => [.tag 0, .number distance]
      | none => [.tag 1, .symbol x.name, .number x.stamp]
  | .app head [] => [.tag 2, .symbol head]
  | .app head (arg :: rest) =>
      [.tag 3, .symbol head, .number (rest.length + 1)] ++ arg.fingerprintIn bound
        ++ fingerprintAll bound rest
  | .abs binder body => .tag 4 :: body.fingerprintIn (binder :: bound)

/-- The items of an argument list, one term after the other. -/
def fingerprintAll (bound : List Variable) : List Term → List HashItem
  | [] => []
  | t :: rest => t.fingerprintIn bound ++ fingerprintAll bound rest
end

mutual
/-- The items of a term below the given binders, followed by given items. Nothing is copied on the
way out of a deep term.
-/
def fingerprintOnto (bound : List Variable) : Term → List HashItem → List HashItem
  | .var x, done =>
      match bound.idxOf? x with
      | some distance => .tag 0 :: .number distance :: done
      | none => .tag 1 :: .symbol x.name :: .number x.stamp :: done
  | .app head [], done => .tag 2 :: .symbol head :: done
  | .app head (arg :: rest), done =>
      .tag 3 :: .symbol head :: .number (rest.length + 1)
        :: arg.fingerprintOnto bound (fingerprintAllOnto bound rest done)
  | .abs binder body, done => .tag 4 :: body.fingerprintOnto (binder :: bound) done

/-- The items of an argument list, followed by given items. -/
def fingerprintAllOnto (bound : List Variable) : List Term → List HashItem → List HashItem
  | [], done => done
  | t :: rest, done => t.fingerprintOnto bound (fingerprintAllOnto bound rest done)
end

mutual
/-- The items followed by given ones are those of the term, by induction on the term. -/
theorem fingerprintOnto_eq (bound : List Variable)
    : ∀ (t : Term) (done : List HashItem),
        t.fingerprintOnto bound done = t.fingerprintIn bound ++ done
  | .var x, done => by
      simp only [fingerprintOnto, fingerprintIn]
      cases bound.idxOf? x <;> rfl
  | .app head [], done => rfl
  | .app head (arg :: rest), done => by
      simp only [fingerprintOnto, fingerprintIn, fingerprintOnto_eq bound arg,
        fingerprintAllOnto_eq bound rest, List.append_assoc, List.cons_append, List.nil_append]
  | .abs binder body, done => by
      simp only [fingerprintOnto, fingerprintIn, fingerprintOnto_eq (binder :: bound) body,
        List.cons_append]

/-- The same holds for argument lists. -/
theorem fingerprintAllOnto_eq (bound : List Variable)
    : ∀ (ts : List Term) (done : List HashItem),
        fingerprintAllOnto bound ts done = fingerprintAll bound ts ++ done
  | [], done => rfl
  | t :: rest, done => by
      simp only [fingerprintAllOnto, fingerprintAll, fingerprintOnto_eq bound t,
        fingerprintAllOnto_eq bound rest, List.append_assoc]
end

/-- The items by which a term is hashed. -/
def fingerprint (t : Term) : List HashItem := t.fingerprintOnto [] []

/-- A term is hashed by its own items, those below no binder. -/
theorem fingerprint_eq (t : Term) : t.fingerprint = t.fingerprintIn [] := by
  rw [fingerprint, fingerprintOnto_eq, List.append_nil]

end Term

end Backchain
