import Backchain.Term

/-! Walking over a term with a stack of pending nodes. Nodes are visited in pre-order, leftmost
child first; each visit decides whether the children follow and what they are told. Binders are not
interpreted: a body is visited like any other child.
-/

namespace Backchain

/-- The decision taken at a node: visit the children with the given input, pass them over, or end
the whole walk.
-/
inductive Visit (ι : Type) where
  | children (input : ι)
  | skip
  | stop

namespace Term

mutual
/-- The number of nodes of a term, counted along its structure. -/
def weight : Term → Nat
  | .var _ => 1
  | .app _ args => 1 + weightAll args
  | .abs _ body => 1 + body.weight

/-- The number of nodes of a list of terms. -/
def weightAll : List Term → Nat
  | [] => 0
  | t :: rest => t.weight + weightAll rest
end

theorem weightAll_append (left right : List Term)
    : weightAll (left ++ right) = weightAll left + weightAll right := by
  induction left with
  | nil => simp [weightAll]
  | cons t rest ih => simp only [List.cons_append, weightAll, ih]; omega

/-- A node outweighs its children by itself. -/
theorem weight_eq_children (t : Term) : t.weight = 1 + weightAll t.children := by
  cases t <;> simp [weight, weightAll, children]

/-- Visits the pending nodes, first to last, pushing the children of each before the rest. -/
def walkPending {σ ι : Type} (visit : σ → Term → ι → σ × Visit ι)
    (pending : List (Term × ι)) (state : σ)
    : σ :=
  match pending with
  | [] => state
  | (node, input) :: rest =>
      match visit state node input with
      | (next, .children told) =>
          walkPending visit (node.children.map (fun child => (child, told)) ++ rest) next
      | (next, .skip) => walkPending visit rest next
      | (next, .stop) => next
termination_by weightAll (pending.map Prod.fst)
decreasing_by
  all_goals
    simp only [List.map_append, List.map_map, Function.comp_def, List.map_id',
      List.map_cons, weightAll, weightAll_append]
    have := node.weight_eq_children
    omega

/-- Walks over a term from its root, threading a state through the visits. -/
def walk {σ ι : Type} (visit : σ → Term → ι → σ × Visit ι) (root : Term) (input : ι)
    (state : σ)
    : σ :=
  walkPending visit [(root, input)] state

/-- The nodes below pending ones in pre-order, the pending ones included. -/
def subtermsPending (pending : List Term) : List Term :=
  match pending with
  | [] => []
  | node :: rest => node :: subtermsPending (node.children ++ rest)
termination_by weightAll pending
decreasing_by
  simp only [weightAll, weightAll_append]
  have := node.weight_eq_children
  omega

/-- Every subterm in pre-order, the term itself first. -/
def subterms (t : Term) : List Term := subtermsPending [t]

/-- The number of nodes. -/
def size (t : Term) : Nat := t.subterms.length

/-- The number of nodes on the longest path from the root. -/
def height (t : Term) : Nat :=
  t.walk (fun highest _ depth => (max highest depth, .children (depth + 1))) 1 0

end Term

end Backchain
