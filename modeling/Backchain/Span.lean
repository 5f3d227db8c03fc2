/-! Regions of source text. Offsets count bytes; lines and columns count from one. -/

namespace Backchain

/-- A range of offsets, the end excluded. -/
structure OffsetRange where
  start : Nat
  stop : Nat
deriving DecidableEq, Inhabited

/-- A region of a source with the position at which it starts. -/
structure Span where
  file : Option String
  range : OffsetRange
  line : Nat
  column : Nat
deriving DecidableEq

namespace Span

/-- The characters that end within the given number of bytes. An offset past the end takes all of
them, and an offset inside a character takes those before it.
-/
def charsBefore : List Char → Nat → List Char
  | [], _ => []
  | c :: rest, offset =>
      if c.utf8Size ≤ offset then c :: charsBefore rest (offset - c.utf8Size) else []

/-- The line after some text, counted from one. -/
def lineAfter (before : List Char) : Nat := 1 + before.count '\n'

/-- The column after some text, counted from one: the characters since the last newline. -/
def columnAfter (before : List Char) : Nat :=
  1 + (before.reverse.takeWhile (fun c => c ≠ '\n')).length

/-- The span of a range in a source. -/
def inSource (file : Option String) (source : String) (range : OffsetRange) : Span :=
  let before := charsBefore source.toList range.start
  { file, range, line := lineAfter before, column := columnAfter before }

/-- The name of the file, or a stand-in for a source without one. -/
def fileName (span : Span) : String := span.file.getD "<input>"

/-- A span as it is displayed: file, line and column. -/
def display (span : Span) : String :=
  span.fileName ++ ":" ++ toString span.line ++ ":" ++ toString span.column

end Span

end Backchain
