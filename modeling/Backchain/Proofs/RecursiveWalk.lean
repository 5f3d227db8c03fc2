import Backchain.Proofs.Measurements

/-! Walking with a stack is recursion on the term. The pending nodes of a walk stand for traversals
still to be made, one after the other; a visit replaces the first of them by those of its children,
takes it away, or takes all of them away.
-/

namespace Backchain

/-- Where a traversal stands after a part of a term: it goes on, or a visit has ended it. -/
inductive Traversal (σ : Type) where
  | ongoing (state : σ)
  | ended (state : σ)

namespace Traversal

variable {σ : Type}

/-- The state that the visits so far have left. -/
def state : Traversal σ → σ
  | .ongoing state => state
  | .ended state => state

/-- Goes on with the next part, unless a visit has ended the traversal. -/
def andThen (traversal : Traversal σ) (next : σ → Traversal σ) : Traversal σ :=
  match traversal with
  | .ongoing state => next state
  | .ended state => .ended state

theorem andThen_ongoing (traversal : Traversal σ) : traversal.andThen .ongoing = traversal := by
  cases traversal <;> rfl

theorem andThen_assoc (traversal : Traversal σ) (next last : σ → Traversal σ)
    : (traversal.andThen next).andThen last
      = traversal.andThen (fun state => (next state).andThen last) := by
  cases traversal <;> rfl

end Traversal

namespace Term

variable {σ ι : Type}

-----------------------------------------------------------------------------------------
-- Traversal by recursion
-----------------------------------------------------------------------------------------

/-- Follows the decision taken at a node, given the traversal of its children. -/
def follow (below : ι → σ → Traversal σ) : σ × Visit ι → Traversal σ
  | (next, .children told) => below told next
  | (next, .skip) => .ongoing next
  | (next, .stop) => .ended next

mutual
/-- Visits a node and then, as its visit decides, its children from left to right. -/
def traverse (visit : σ → Term → ι → σ × Visit ι) : Term → ι → σ → Traversal σ
  | .var x, input, state =>
      follow (fun _ next => .ongoing next) (visit state (.var x) input)
  | .app head args, input, state =>
      follow (fun told next => traverseAll visit args told next)
        (visit state (.app head args) input)
  | .abs binder body, input, state =>
      follow (fun told next => body.traverse visit told next)
        (visit state (.abs binder body) input)

/-- Traverses terms from left to right with one input. -/
def traverseAll (visit : σ → Term → ι → σ × Visit ι) : List Term → ι → σ → Traversal σ
  | [], _, state => .ongoing state
  | t :: rest, input, state =>
      (t.traverse visit input state).andThen (fun next => traverseAll visit rest input next)
end

mutual
/-- Every subterm in pre-order, listed along the structure. -/
def preorder : Term → List Term
  | .var x => [.var x]
  | .app head args => .app head args :: preorderAll args
  | .abs binder body => .abs binder body :: body.preorder

/-- The subterms of each term of a list in turn. -/
def preorderAll : List Term → List Term
  | [] => []
  | t :: rest => t.preorder ++ preorderAll rest
end

section

variable (visit : σ → Term → ι → σ × Visit ι)

theorem traverse_eq_follow (t : Term) (input : ι) (state : σ)
    : t.traverse visit input state
      = follow (traverseAll visit t.children) (visit state t input) := by
  cases t with
  | var x => rfl
  | app head args => rfl
  | abs binder body =>
      have single : traverseAll visit [body] = body.traverse visit := by
        funext told next
        exact Traversal.andThen_ongoing (body.traverse visit told next)
      rw [traverse, children, single]

/-- The traversals that pending nodes stand for, one after the other. -/
def traversePending : List (Term × ι) → σ → Traversal σ
  | [], state => .ongoing state
  | (node, input) :: rest, state =>
      (node.traverse visit input state).andThen (traversePending rest)

theorem traversePending_append (left right : List (Term × ι)) (state : σ)
    : traversePending visit (left ++ right) state
      = (traversePending visit left state).andThen (traversePending visit right) := by
  induction left generalizing state with
  | nil => rfl
  | cons entry rest ih =>
      rw [List.cons_append, traversePending, traversePending, Traversal.andThen_assoc, funext ih]

/-- Children that wait with one input are traversed as the children of their node. -/
theorem traversePending_children (nodes : List Term) (told : ι) (state : σ)
    : traversePending visit (nodes.map (fun child => (child, told))) state
      = traverseAll visit nodes told state := by
  induction nodes generalizing state with
  | nil => rfl
  | cons node rest ih => rw [List.map_cons, traversePending, traverseAll, funext ih]

/-- A walk leaves what the traversals of its pending nodes leave, by induction along the walk. The
first node is opened into its children, and its visit decides whether the others follow.
-/
theorem walkPending_eq_traversePending (pending : List (Term × ι)) (state : σ)
    : walkPending visit pending state = (traversePending visit pending state).state := by
  fun_induction walkPending visit pending state with
  | case1 state => rfl
  | case2 state node input rest next told visited ih =>
      rw [ih, traversePending_append, traversePending_children, traversePending,
        traverse_eq_follow, visited, follow]
  | case3 state node input rest next visited ih =>
      rw [ih, traversePending, traverse_eq_follow, visited, follow, Traversal.andThen]
  | case4 state node input rest next visited =>
      rw [traversePending, traverse_eq_follow, visited, follow, Traversal.andThen,
        Traversal.state]

-----------------------------------------------------------------------------------------
-- Number of visits
-----------------------------------------------------------------------------------------

/-- The visitor that also counts its visits. -/
def counted (state : σ × Nat) (node : Term) (input : ι) : (σ × Nat) × Visit ι :=
  let (next, decision) := visit state.1 node input
  ((next, state.2 + 1), decision)

/-- A pending node weighs one more than what its visit can put in its place. -/
theorem weightAll_pending (node : Term) (input : ι) (rest : List (Term × ι))
    : weightAll (((node, input) :: rest).map Prod.fst)
      = weightAll node.children + weightAll (rest.map Prod.fst) + 1 := by
  have heavier := node.weight_eq_children
  simp only [List.map_cons, weightAll]
  omega

/-- Counting changes nothing else, and the visits are no more than the nodes below the pending ones,
by induction along the walk.
-/
theorem exists_walkPending_counted (pending : List (Term × ι)) (state : σ) (count : Nat)
    : ∃ visits ≤ weightAll (pending.map Prod.fst),
        walkPending (counted visit) pending (state, count)
          = (walkPending visit pending state, count + visits) := by
  fun_induction walkPending visit pending state generalizing count with
  | case1 state => exact ⟨0, Nat.zero_le _, by rw [walkPending, Nat.add_zero]⟩
  | case2 state node input rest next told visited ih =>
      obtain ⟨visits, few, walked⟩ := ih (count + 1)
      simp only [List.map_append, List.map_map, Function.comp_def, List.map_id',
        weightAll_append] at few
      refine ⟨visits + 1, ?_, ?_⟩
      · rw [weightAll_pending]
        exact Nat.succ_le_succ few
      · rw [walkPending, counted, visited]
        exact Nat.add_right_comm count 1 visits ▸ walked
  | case3 state node input rest next visited ih =>
      obtain ⟨visits, few, walked⟩ := ih (count + 1)
      refine ⟨visits + 1, ?_, ?_⟩
      · rw [weightAll_pending]
        exact Nat.succ_le_succ (Nat.le_trans few (Nat.le_add_left _ _))
      · rw [walkPending, counted, visited]
        exact Nat.add_right_comm count 1 visits ▸ walked
  | case4 state node input rest next visited =>
      refine ⟨1, ?_, ?_⟩
      · rw [weightAll_pending]
        exact Nat.le_add_left 1 _
      · rw [walkPending, counted, visited]

end

-----------------------------------------------------------------------------------------
-- Listing
-----------------------------------------------------------------------------------------

theorem preorder_eq_children (t : Term) : t.preorder = t :: preorderAll t.children := by
  cases t <;> simp [preorder, preorderAll, children]

theorem preorderAll_append (left right : List Term)
    : preorderAll (left ++ right) = preorderAll left ++ preorderAll right := by
  induction left with
  | nil => rfl
  | cons t rest ih => rw [List.cons_append, preorderAll, preorderAll, ih, List.append_assoc]

theorem subtermsPending_eq_preorderAll (pending : List Term)
    : subtermsPending pending = preorderAll pending := by
  fun_induction subtermsPending pending with
  | case1 => rfl
  | case2 node rest ih =>
      rw [ih, preorderAll_append, preorderAll, preorder_eq_children, List.cons_append]

/-- The walk with a stack is the recursive one, for every visitor. It leaves the state that is left
by visiting a node and then, if the visit says so, its children from left to right with the input
they are given, where nothing is visited any more after a visit that stops. It makes at most one
visit for each node. Subterms are listed in the order of the recursion, and size and height are
those along the structure.
-/
theorem walk_eq_traverse (visit : σ → Term → ι → σ × Visit ι) (t : Term) (input : ι) (state : σ)
    : t.walk visit input state = (t.traverse visit input state).state
      ∧ (∃ visits ≤ t.size,
          t.walk (counted visit) input (state, 0) = (t.walk visit input state, visits))
      ∧ t.subterms = t.preorder
      ∧ t.size = t.weight
      ∧ t.height = t.levels := by
  refine ⟨?_, ?_, ?_, t.size_eq_weight, t.height_eq_levels⟩
  · rw [walk, walkPending_eq_traversePending, traversePending]
    exact congrArg Traversal.state (Traversal.andThen_ongoing (t.traverse visit input state))
  · obtain ⟨visits, few, walked⟩ := exists_walkPending_counted visit [(t, input)] state 0
    rw [Nat.zero_add] at walked
    exact ⟨visits, t.size_eq_weight ▸ few, walked⟩
  · rw [subterms, subtermsPending_eq_preorderAll]
    exact List.append_nil t.preorder

end Term

end Backchain
