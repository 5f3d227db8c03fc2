import Backchain.Text.CodeRanges

/-! White space and the ends of lines: the Unicode property White_Space, and the characters after
which a new line starts.
-/

namespace Backchain.Text

/-- The ranges of white space characters. -/
def blankRanges : CodeRanges :=
  [
    (0x0009, 0x000D), (0x0020, 0x0020), (0x0085, 0x0085), (0x00A0, 0x00A0),
    (0x1680, 0x1680), (0x2000, 0x200A), (0x2028, 0x2029), (0x202F, 0x202F),
    (0x205F, 0x205F), (0x3000, 0x3000)
  ]

/-- Whether a character is white space. -/
def isBlank (c : Char) : Bool := blankRanges.contains c

/-- The ranges of characters that end a line. -/
def lineEndRanges : CodeRanges := [(0x000A, 0x000D), (0x0085, 0x0085), (0x2028, 0x2029)]

/-- Whether a line ends at a character. -/
def isLineEnd (c : Char) : Bool := lineEndRanges.contains c

/-- Text without the white space at its end. -/
def trimEnd (cs : List Char) : List Char := (cs.reverse.dropWhile isBlank).reverse

/-- The lines of a text with their ends, given the current line in reverse. A carriage return and
the newline after it end one line together.
-/
def fullLinesFrom (current : List Char) : List Char → List (List Char)
  | [] => if current.isEmpty then [] else [current.reverse]
  | '\r' :: '\n' :: rest => ('\n' :: '\r' :: current).reverse :: fullLinesFrom [] rest
  | c :: rest =>
      if isLineEnd c then (c :: current).reverse :: fullLinesFrom [] rest
      else fullLinesFrom (c :: current) rest

/-- The lines of a text with their ends. Empty text is one empty line. -/
def fullLines (cs : List Char) : List (List Char) :=
  match cs with
  | [] => [[]]
  | _ => fullLinesFrom [] cs

end Backchain.Text
