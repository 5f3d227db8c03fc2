import Backchain.Substitution
import Backchain.Term.Fingerprint
import Backchain.Text.Quoted

/-! Judgments: terms that claim to belong to a family. A family fixes the constructor at the head of
its terms and the number of its arguments.
-/

namespace Backchain

/-- A family of judgments: the constructor and the number of arguments of its terms. -/
structure Family where
  name : Symbol
  arity : Nat
deriving DecidableEq, Inhabited

namespace Family

/-- The written form of a family, such as `plus/3`. -/
def display (f : Family) : String := f.name ++ "/" ++ toString f.arity

/-- A family with the names of its parts. -/
def describe (f : Family) : String :=
  "JudgmentFamily \x7b name: " ++ Text.quoted f.name ++ ", arity: " ++ toString f.arity ++ " \x7d"

/-- The items by which a family is hashed. -/
def fingerprint (f : Family) : List HashItem := [.symbol f.name, .number f.arity]

/-- Families are ordered by name, and families of one name by arity. -/
instance : Ord Family where
  compare := compareLex (compareOn Family.name) (compareOn Family.arity)

instance : Std.TransOrd Family :=
  inferInstanceAs (Std.TransCmp (compareLex (compareOn Family.name) (compareOn Family.arity)))

instance : Std.LawfulEqOrd Family where
  compare_self := Std.ReflCmp.compare_self
  eq_of_compare {f g} h := by
    have parts : compareLex (compareOn name) (compareOn arity) f g = .eq := h
    rw [compareLex_eq_eq] at parts
    cases f; cases g
    simp only [mk.injEq]
    exact ⟨Std.LawfulEqOrd.eq_of_compare parts.1, Std.LawfulEqOrd.eq_of_compare parts.2⟩

/-- The families of a list in order, repetitions kept. -/
def sort (families : List Family) : List Family :=
  families.mergeSort (fun f g => (compare f g).isLE)

end Family

/-- A term together with the family it claims to belong to. -/
structure Judgment where
  term : Term
  family : Family
deriving Inhabited

/-- Why a term does not have the shape of its family. -/
inductive MalformedJudgment where
  | notAnApplication (judgment : Judgment)
  | headMismatch (judgment : Judgment) (found : Symbol)
  | arityMismatch (judgment : Judgment) (found : Nat)

namespace Judgment

/-- Checks that the term is headed by the family's constructor and has as many arguments as the
family asks for. A wrong head is reported before a wrong number of arguments.
-/
def validate (j : Judgment) : Except MalformedJudgment Unit :=
  match j.term.head? with
  | none => .error (.notAnApplication j)
  | some head =>
      if head ≠ j.family.name then .error (.headMismatch j head)
      else if j.term.args.length ≠ j.family.arity then
        .error (.arityMismatch j j.term.args.length)
      else .ok ()

/-- A judgment whose term has the shape of its family. -/
def Valid (j : Judgment) : Prop := j.validate = .ok ()

theorem valid_iff {j : Judgment}
    : j.Valid ↔ j.term.head? = some j.family.name ∧ j.term.args.length = j.family.arity := by
  unfold Valid validate
  cases j.term.head? with
  | none => simp
  | some head =>
      by_cases named : head = j.family.name
      · by_cases counted : j.term.args.length = j.family.arity <;> simp [named, counted]
      · simp [named]

/-- The judgment with a substitution applied to its term. The family stays. -/
def instantiate (j : Judgment) (s : Substitution) : Judgment := { j with term := s.apply j.term }

/-- Whether two judgments have equal terms, up to bound names, and the same family. -/
def alphaEq (j k : Judgment) : Bool := j.term.alphaEq k.term && j.family = k.family

/-- The variables free in the term. -/
def freeVars (j : Judgment) : VarSet := j.term.freeVars

/-- The items by which a judgment is hashed. -/
def fingerprint (j : Judgment) : List HashItem := j.term.fingerprint ++ j.family.fingerprint

/-- The document of a judgment is that of its term. -/
def doc (j : Judgment) : Doc := j.term.doc

/-- A judgment as it is displayed. -/
def display (j : Judgment) : String := j.term.display

/-- A judgment with the names of its parts. -/
def describe (j : Judgment) : String :=
  "Judgment \x7b term: " ++ j.term.ticked ++ ", family: " ++ j.family.describe ++ " \x7d"

/-- The judgment of a constructor term, of the family that its head and arguments name. -/
def ofTerm? (t : Term) : Option Judgment :=
  t.head?.map (fun head => ⟨t, ⟨head, t.args.length⟩⟩)

end Judgment

namespace MalformedJudgment

/-- Whether two causes are of one kind and about equal judgments, up to bound names. -/
def alphaEq : MalformedJudgment → MalformedJudgment → Bool
  | .notAnApplication j, .notAnApplication k => j.alphaEq k
  | .headMismatch j found, .headMismatch k other => found = other && j.alphaEq k
  | .arityMismatch j found, .arityMismatch k other => found = other && j.alphaEq k
  | _, _ => false

/-- The wording of each cause. -/
def message : MalformedJudgment → String
  | .notAnApplication j =>
      "Judgment `" ++ j.display ++ "` of family `" ++ j.family.display
        ++ "` is not a constructor application."
  | .headMismatch j found =>
      "Judgment `" ++ j.display ++ "` is headed by `" ++ found ++ "` but belongs to family `"
        ++ j.family.display ++ "`."
  | .arityMismatch j found =>
      "Judgment `" ++ j.display ++ "` has " ++ toString found ++ " arguments, family `"
        ++ j.family.display ++ "` expects " ++ toString j.family.arity ++ "."

end MalformedJudgment

end Backchain
