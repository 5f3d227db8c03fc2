import Backchain.Diagnostic
import Backchain.Text.Blank
import Backchain.Text.CharWidth
import Backchain.Text.Lines

/-! Reports: a diagnostic drawn against the text of its source. The range of the span is read as
character offsets into the source.
-/

namespace Backchain

namespace Report

-----------------------------------------------------------------------------------------
-- The source by lines
-----------------------------------------------------------------------------------------

/-- A line of a source with the offset of its first character. -/
structure SourceLine where
  start : Nat
  chars : List Char

/-- Lines with the offsets at which they start, the first at the given one. -/
def numbered (start : Nat) : List (List Char) → List SourceLine
  | [] => []
  | chars :: rest => ⟨start, chars⟩ :: numbered (start + chars.length) rest

/-- The lines of a source. -/
def sourceLines (source : String) : List SourceLine := numbered 0 (Text.fullLines source.toList)

/-- The number, from zero, of the last line that starts at or before an offset. -/
def lineAt (lines : List SourceLine) (offset : Nat) : Nat :=
  (lines.takeWhile (fun line => line.start ≤ offset)).length - 1

/-- The number of columns to the next tab stop. -/
def tabWidth (index : Nat) : Nat := 4 - index % 4

/-- The columns of each character that is shown, given the index of the first. -/
def shownWidths (index : Nat) : List Char → List Nat
  | [] => []
  | c :: rest =>
      let width :=
        if c = '\t' then tabWidth index else if Text.isBlank c then 1 else Text.charWidth c
      width :: shownWidths (index + 1) rest

/-- How each character is shown, given the index of the first: a tab as the columns to the next tab
stop, other white space as one space.
-/
def shownTexts (index : Nat) : List Char → List Char
  | [] => []
  | c :: rest =>
      let shown :=
        if c = '\t' then List.replicate (tabWidth index) ' '
        else if Text.isBlank c then [' ']
        else [c]
      shown ++ shownTexts (index + 1) rest

namespace SourceLine

/-- The end of a line, its terminator included. -/
def stop (line : SourceLine) : Nat := line.start + line.chars.length

/-- The line as it is shown, without the white space at its end. -/
def shown (line : SourceLine) : String := String.ofList (shownTexts 0 (Text.trimEnd line.chars))

/-- The columns of the first `n` indices of a line. Past the shown text each index has one. -/
def widths (line : SourceLine) (n : Nat) : List Nat :=
  let known := shownWidths 0 (Text.trimEnd line.chars)
  known.take n ++ List.replicate (n - known.length) 1

end SourceLine

-----------------------------------------------------------------------------------------
-- Drawing
-----------------------------------------------------------------------------------------

/-- A character repeated. -/
def repeated (c : Char) (n : Nat) : String := String.ofList (List.replicate n c)

/-- A number with spaces before it up to a width. -/
def alignedRight (width n : Nat) : String :=
  let digits := toString n
  repeated ' ' (width - digits.length) ++ digits

/-- A cell that starts with one character and goes on with another. A cell of no width is empty. -/
def cell (first next : Char) (width : Nat) : String :=
  if width = 0 then "" else first.toString ++ repeated next (width - 1)

/-- The cells of a row, one for each index of a line. -/
def row (draw : Nat → Nat → String) (widths : List Nat) : String :=
  String.join (widths.mapIdx draw)

/-- What is drawn on one line: the text, the marked range, and the message under its middle. The
range is given by offsets from the start of the line.
-/
def oneLine (margin number message : String) (line : SourceLine) (range : OffsetRange)
    : List String :=
  if line.stop < range.stop then [margin ++ "│ "]
  else
    let middle := (range.start + range.stop) / 2 - line.start
    let widths := line.widths (range.stop - line.start + 2)
    let marked (i : Nat) : Bool :=
      range.start ≤ line.start + i && line.start + i < range.stop
    let marks (i width : Nat) : String :=
      if i = middle then if marked i then cell '┬' '─' width else cell '│' ' ' width
      else if marked i then repeated '─' width
      else repeated ' ' width
    let pointer (i width : Nat) : String :=
      if i = middle then cell '╰' '─' width
      else if middle < i then repeated '─' width
      else repeated ' ' width
    [
      " " ++ number ++ " │ " ++ line.shown,
      margin ++ "│ " ++ row marks widths,
      margin ++ "│ " ++ row pointer widths ++ " " ++ message
    ]

/-- The rows at the end of a range: the line, and the message under its right edge. -/
def closingRows (margin number message : String) (line : SourceLine) : List String :=
  let columns := (line.widths (line.chars.length + 2)).foldr (· + ·) 0
  [
    " " ++ number ++ " │ ├─▶ " ++ line.shown,
    margin ++ "│ │   " ++ repeated ' ' columns,
    margin ++ "│ ╰" ++ repeated '─' (columns + 3) ++ " " ++ message
  ]

/-- What is drawn for a range that starts on one line and ends on a later one. The lines between are
left out. So is the line of the end, with the message, if the range goes past the source.
-/
def severalLines (margin first second message : String) (start stop : SourceLine)
    (last : Nat) (adjacent : Bool) : List String :=
  let closed := last < stop.stop
  [" " ++ first ++ " │ ╭─▶ " ++ start.shown]
    ++ (if adjacent && closed then [] else [margin ++ "┆ ┆   "])
    ++ (if closed then closingRows margin second message stop else [])

/-- The rows of a note: an empty one, and one for each line of its text. -/
def noteRows (lead : String) : List String → List String
  | [] => [lead]
  | first :: rest =>
      lead :: (lead ++ "Note: " ++ first) :: rest.map (fun line => lead ++ "      " ++ line)

/-- What stands before a note under several lines. The bar goes on if the range starts right after
the first line of the source.
-/
def noteIndent (lines : List SourceLine) (start : Nat) : String :=
  if lines.head?.any (fun line => line.stop = start) then "│   " else "    "

/-- The rows below the heading of a report, if the range lies in the source. -/
def body (d : Diagnostic) (span : Span) (source : String) : List String :=
  let lines := sourceLines source
  let start := span.range.start
  let last := max (span.range.stop - 1) start
  let length := source.length
  if length < start ∨ length < last then []
  else
    let startLine := lineAt lines start
    let lastLine := lineAt lines last
    match lines[startLine]?, lines[lastLine]? with
    | some first, some second =>
        let width := (toString (lastLine + 1)).length
        let margin := repeated ' ' (width + 2)
        let number (line : Nat) := alignedRight width (line + 1)
        let sameLine := startLine = lastLine
        let drawn :=
          if sameLine then oneLine margin (number startLine) d.message first span.range
          else
            severalLines margin (number startLine) (number lastLine) d.message first second last
              (startLine + 1 = lastLine)
        let lead := margin ++ "│ " ++ (if sameLine then "" else noteIndent lines start)
        let note :=
          match d.debugInfo with
          | some info => noteRows lead (Text.lines info)
          | none => []
        [
          margin ++ "╭─[ " ++ span.fileName ++ ":" ++ toString (startLine + 1) ++ ":"
            ++ toString (start - first.start + 1) ++ " ]",
          margin ++ "│"
        ]
          ++ drawn ++ note ++ [repeated '─' (width + 2) ++ "╯"]
    | _, _ => []

/-- The first row of a report: its code, its severity and its message. -/
def heading (d : Diagnostic) : String :=
  let severity := if d.isError then "Error" else "Warning"
  "[" ++ d.kind.code ++ "] " ++ severity ++ ": " ++ d.message

end Report

/-- Why a report cannot be drawn. -/
inductive ReportError where
  | reversedRange
deriving DecidableEq

/-- The wording of each cause. -/
def ReportError.message : ReportError → String
  | .reversedRange => "Label start is after its end"

/-- A diagnostic drawn against its source, or its full message if its place is not known. The range
of the span must not end before it starts.
-/
def Diagnostic.report (d : Diagnostic) (source : String) : Except ReportError String :=
  match d.span with
  | none => .ok (d.fullMessage ++ "\n")
  | some span =>
      if span.range.stop < span.range.start then .error .reversedRange
      else
        .ok (String.join ((Report.heading d :: Report.body d span source).map (· ++ "\n")))

end Backchain
