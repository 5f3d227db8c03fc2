import Backchain.ProofTree
import Backchain.Text.Lines

/-! The documents of proof trees: one line for each node in pre-order, indented by its depth. -/

namespace Backchain

namespace ProofTree

mutual
/-- The document of a proof tree. -/
def doc : ProofTree → Doc
  | .unproved goal => goal.doc ++ .space ++ .keyword "by" ++ .space ++ .punctuation "?"
  | .derived goal inst children =>
      goal.doc ++ .space ++ .keyword "by" ++ .space ++ .keyword "rule" ++ .space
        ++ .styled .rule inst.rule.name ++ .nest 2 (docBelow children)

/-- The documents of subtrees, each on a new line. -/
def docBelow : List ProofTree → Doc
  | [] => .empty
  | tree :: rest => .hardline ++ tree.doc ++ docBelow rest
end

/-- A proof tree as it is displayed. -/
def display (tree : ProofTree) : String := tree.doc.render Doc.displayColumns

/-- The lines of a displayed proof tree. -/
def displayLines (tree : ProofTree) : List String := Text.lines tree.display

end ProofTree

end Backchain
