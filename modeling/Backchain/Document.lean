import Backchain.Document.Style

/-! Documents: text with places where a line may be broken. A group is laid out on one line if it
fits, and otherwise with all of its own lines broken.
-/

namespace Backchain

/-- A document. A `line` is a space on a flat layout and a newline on a broken one; a `hardline` is
a newline always; `nest` indents the newlines inside it.
-/
inductive Doc where
  | empty
  | text (style : Option Style) (content : String)
  | line
  | hardline
  | append (first second : Doc)
  | nest (indent : Nat) (inner : Doc)
  | group (inner : Doc)
deriving Inhabited

namespace Doc

instance : Append Doc := ⟨Doc.append⟩

/-- Text in a style. -/
def styled (style : Style) (content : String) : Doc := .text (some style) content

/-- Text in no style. -/
def plain (content : String) : Doc := .text none content

/-- A space at which no line is broken. -/
def space : Doc := plain " "

/-- A comma, a dot or another mark between other texts. -/
def punctuation (mark : String) : Doc := styled .punctuation mark

/-- A word of the language. -/
def keyword (word : String) : Doc := styled .keyword word

/-- The documents of a list with a separator between neighbours. -/
def separate (separator : Doc) : List Doc → Doc
  | [] => .empty
  | [d] => d
  | d :: rest => d ++ separator ++ separate separator rest

end Doc

end Backchain
