import Backchain.Document.Layout

/-! Rendering documents. A renderer lays a document out within a width and makes the same calls
whatever it writes to. A plain writer takes the texts only; a writer on a terminal also shows their
styles.
-/

namespace Backchain

/-- What a renderer asks of a writer: to write a text, to put a style on what follows, or to take it
off again.
-/
inductive Call where
  | write (content : String)
  | push (style : Style)
  | pop
deriving DecidableEq

namespace Call

/-- What a writer without styles writes. -/
def plain : Call → List String
  | .write content => [content]
  | .push _ => []
  | .pop => []

/-- What a writer on a terminal writes. -/
def shownOn (terminal : Terminal) : Call → List String
  | .write content => [content]
  | .push style => terminal.switchTo style.face
  | .pop => terminal.reset

end Call

/-- A renderer, given by the calls that it makes for a document within a width. -/
structure Renderer where
  calls : Nat → Doc → List Call

namespace Renderer

/-- The plain text of a document within a width. -/
def text (renderer : Renderer) (width : Nat) (d : Doc) : String :=
  String.join ((renderer.calls width d).flatMap Call.plain)

/-- The text of a document within a width, with what shows its styles on a terminal. -/
def textOn (renderer : Renderer) (terminal : Terminal) (width : Nat) (d : Doc) : String :=
  String.join ((renderer.calls width d).flatMap (Call.shownOn terminal))

end Renderer

/-- The calls for a piece of a laid out document. -/
def Piece.calls : Piece → List Call
  | .text none content => [.write content]
  | .text (some style) content => [.push style, .write content, .pop]
  | .blank => [.write " "]
  | .newline indent => [.write "\n", .write (String.ofList (List.replicate indent ' '))]

/-- The renderer that writes the pieces of a layout. -/
def Renderer.standard : Renderer where
  calls width d := (d.layout width).flatMap Piece.calls

/-- Whether styles are shown on a terminal or left out. -/
inductive Coloring where
  | plain
  | ansi
deriving DecidableEq

namespace Doc

/-- The texts that make up a document laid out within a width, in the order of writing. -/
def chunks (coloring : Coloring) (width : Nat) (d : Doc) : List String :=
  match coloring with
  | .plain => (Renderer.standard.calls width d).flatMap Call.plain
  | .ansi => (Renderer.standard.calls width d).flatMap (Call.shownOn .ansi)

/-- A document laid out within a width, as plain text. -/
def render (width : Nat) (d : Doc) : String := Renderer.standard.text width d

/-- A document laid out within a width, with its styles as terminal sequences. -/
def renderAnsi (width : Nat) (d : Doc) : String := Renderer.standard.textOn .ansi width d

/-- The width within which everything is displayed unless another width is asked for. -/
def displayColumns : Nat := 80

end Doc

end Backchain
