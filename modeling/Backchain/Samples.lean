import Backchain.Rulebook

/-! Sample rulebooks over unary numbers: the numbers themselves, addition, even numbers behind a
rule that loops, and an order whose transitivity has a variable that only its premises mention.
-/

namespace Backchain

namespace Samples

/-- A variable written by hand. -/
def v (name : Symbol) : Term := .var { name }

/-- The constant zero. -/
def zero : Term := .const "z"

/-- The successor of a term. -/
def succ (t : Term) : Term := .app "s" [t]

/-- The unary form of a number. -/
def numeral (n : Nat) : Term := Term.iterate "s" zero n

/-- The judgment that a term is a number. -/
def isNat (t : Term) : Judgment := ⟨.app "P" [t], ⟨"P", 1⟩⟩

/-- The judgment that the third term is the sum of the others. -/
def plus (a b c : Term) : Judgment := ⟨.app "plus" [a, b, c], ⟨"plus", 3⟩⟩

/-- The judgment that a term is an even number. -/
def isEven (t : Term) : Judgment := ⟨.app "E" [t], ⟨"E", 1⟩⟩

/-- The judgment that a term is at most another. -/
def le (a b : Term) : Judgment := ⟨.app "le" [a, b], ⟨"le", 2⟩⟩

/-- Zero is a number, and so is every successor of one. -/
def natDrafts : List RuleDraft :=
  [
    { name := "base", conclusion := isNat zero },
    { name := "step", premises := [isNat (v "n")], conclusion := isNat (succ (v "n")) }
  ]

/-- Addition by recursion on the first number. -/
def plusDrafts : List RuleDraft :=
  [
    { name := "plus_z", conclusion := plus zero (v "n") (v "n") },
    {
      name := "plus_s",
      premises := [plus (v "m") (v "n") (v "k")],
      conclusion := plus (succ (v "m")) (v "n") (succ (v "k"))
    }
  ]

/-- Even numbers, with a rule in front that leads from a goal to itself. -/
def evenDrafts : List RuleDraft :=
  [
    { name := "even_loop", premises := [isEven (v "n")], conclusion := isEven (v "n") },
    { name := "even_z", conclusion := isEven zero },
    {
      name := "even_ss",
      premises := [isEven (v "n")],
      conclusion := isEven (succ (succ (v "n")))
    }
  ]

/-- An order with a transitivity rule that is not grounded. -/
def orderDrafts : List RuleDraft :=
  [
    {
      name := "le_trans",
      premises := [le (v "a") (v "b"), le (v "b") (v "c")],
      conclusion := le (v "a") (v "c")
    },
    { name := "le_refl", conclusion := le (v "n") (v "n") },
    {
      name := "le_s",
      premises := [le (v "n") (v "m")],
      conclusion := le (v "n") (succ (v "m"))
    }
  ]

/-- The rulebook of the numbers. -/
def nat : Rulebook := Rulebook.empty.declare natDrafts

/-- The rulebook of addition. -/
def addition : Rulebook := Rulebook.empty.declare plusDrafts

/-- The rulebook of the numbers and the even numbers. -/
def even : Rulebook := nat.declare evenDrafts

/-- The rulebook of the numbers and their order. -/
def order : Rulebook := nat.declare orderDrafts

end Samples

end Backchain
