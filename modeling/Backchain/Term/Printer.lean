import Backchain.Document.Renderer
import Backchain.Term

/-! The documents of terms. -/

namespace Backchain

namespace Term

mutual
/-- The document of a term whose parentheses start at the given depth. -/
def docAt (depth : UInt8) : Term → Doc
  | .var x => .styled .identifier x.display
  | .app head [] => .styled .constructor head
  | .app head (arg :: rest) =>
      .group (.styled .constructor head
        ++ .styled (.paren depth) "("
        ++ .group (.nest 2 (arg.docAt (depth + 1) ++ docRest (depth + 1) rest))
        ++ .styled (.paren depth) ")")
  | .abs binder body =>
      .group (.nest 2 (.punctuation "\\"
        ++ .styled .identifier binder.display
        ++ .punctuation "."
        ++ .line
        ++ body.docAt depth))

/-- The documents of further arguments, each after a comma. -/
def docRest (depth : UInt8) : List Term → Doc
  | [] => .empty
  | t :: rest => .punctuation "," ++ .line ++ t.docAt depth ++ docRest depth rest
end

/-- The document of a term. -/
def doc (t : Term) : Doc := t.docAt 0

/-- A term as it is displayed. -/
def display (t : Term) : String := t.doc.render Doc.displayColumns

/-- A displayed term between backticks. -/
def ticked (t : Term) : String := "`" ++ t.display ++ "`"

end Term

end Backchain
