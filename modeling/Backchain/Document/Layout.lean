import Backchain.Document
import Backchain.Text.DisplayWidth

/-! Laying out a document within a width. A group is flat exactly when its flat form, followed by
the text up to the next place where the rest can be broken, stays within the width.
-/

namespace Backchain

/-- A piece of a laid out document. -/
inductive Piece where
  | text (style : Option Style) (content : String)
  | blank
  | newline (indent : Nat)
deriving DecidableEq

/-- How the lines of a document are laid out. -/
inductive Mode where
  | flat
  | broken
deriving DecidableEq

/-- Where a scan for the next newline ends: past the width, at a newline, or at a column. -/
inductive Reach where
  | overflow
  | newline
  | column (c : Nat)
deriving DecidableEq

namespace Doc

/-- The column after a text, if the width reaches it. -/
def columnWithin? (width column : Nat) : Option Nat :=
  if column ≤ width then some column else none

/-- The column at which the flat form of a document ends, if it stays within the width. -/
def flatEnd? (width : Nat) : Doc → Nat → Option Nat
  | .empty, column => some column
  | .text _ content, column => columnWithin? width (column + Text.displayWidth content)
  | .line, column => columnWithin? width (column + 1)
  | .hardline, _ => none
  | .append first second, column =>
      (first.flatEnd? width column).bind (fun middle => second.flatEnd? width middle)
  | .nest _ inner, column => inner.flatEnd? width column
  | .group inner, column => inner.flatEnd? width column

/-- Follows a document up to the first place where a line can be broken. -/
def reach (width : Nat) : Doc → Nat → Reach
  | .empty, column => .column column
  | .text _ content, column =>
      match columnWithin? width (column + Text.displayWidth content) with
      | some next => .column next
      | none => .overflow
  | .line, _ => .newline
  | .hardline, _ => .newline
  | .append first second, column =>
      match first.reach width column with
      | .column middle => second.reach width middle
      | ended => ended
  | .nest _ inner, column => inner.reach width column
  | .group inner, column => inner.reach width column

/-- Whether the documents that follow stay within the width up to the first place where a line can
be broken.
-/
def restFits (width : Nat) : List Doc → Nat → Bool
  | [], _ => true
  | d :: rest, column =>
      match d.reach width column with
      | .overflow => false
      | .newline => true
      | .column next => restFits width rest next

/-- Whether a document can be laid out flat before the rest. -/
def fits (width : Nat) (d : Doc) (rest : List Doc) (column : Nat) : Bool :=
  match d.flatEnd? width column with
  | some next => restFits width rest next
  | none => false

/-- The pieces of a document and the column at which it ends. The list holds the documents that
follow it, nearest first.
-/
def layoutFrom (width : Nat) : Doc → Nat → Mode → List Doc → Nat → List Piece × Nat
  | .empty, _, _, _, column => ([], column)
  | .text style content, _, _, _, column =>
      ([.text style content], column + Text.displayWidth content)
  | .line, _, .flat, _, column => ([.blank], column + 1)
  | .line, indent, .broken, _, _ => ([.newline indent], indent)
  | .hardline, indent, _, _, _ => ([.newline indent], indent)
  | .append first second, indent, mode, rest, column =>
      let before := first.layoutFrom width indent mode (second :: rest) column
      let after := second.layoutFrom width indent mode rest before.2
      (before.1 ++ after.1, after.2)
  | .nest more inner, indent, mode, rest, column =>
      inner.layoutFrom width (indent + more) mode rest column
  | .group inner, indent, .flat, rest, column =>
      inner.layoutFrom width indent .flat rest column
  | .group inner, indent, .broken, rest, column =>
      inner.layoutFrom width indent (if fits width inner rest column then .flat else .broken)
        rest column

/-- Puts the pieces of a document before given ones, the last piece first, and gives the column at
which the document ends. No piece is copied on the way out of a deep document.
-/
def layoutOnto (width : Nat)
    : Doc → Nat → Mode → List Doc → Nat → List Piece → List Piece × Nat
  | .empty, _, _, _, column, done => (done, column)
  | .text style content, _, _, _, column, done =>
      (.text style content :: done, column + Text.displayWidth content)
  | .line, _, .flat, _, column, done => (.blank :: done, column + 1)
  | .line, indent, .broken, _, _, done => (.newline indent :: done, indent)
  | .hardline, indent, _, _, _, done => (.newline indent :: done, indent)
  | .append first second, indent, mode, rest, column, done =>
      let before := first.layoutOnto width indent mode (second :: rest) column done
      second.layoutOnto width indent mode rest before.2 before.1
  | .nest more inner, indent, mode, rest, column, done =>
      inner.layoutOnto width (indent + more) mode rest column done
  | .group inner, indent, .flat, rest, column, done =>
      inner.layoutOnto width indent .flat rest column done
  | .group inner, indent, .broken, rest, column, done =>
      inner.layoutOnto width indent (if fits width inner rest column then .flat else .broken)
        rest column done

/-- The pieces put before given ones are those of the document, by induction on the document. -/
theorem layoutOnto_eq (width : Nat) (d : Doc) (indent : Nat) (mode : Mode) (rest : List Doc)
    (column : Nat) (done : List Piece)
    : d.layoutOnto width indent mode rest column done
      = ((d.layoutFrom width indent mode rest column).1.reverse ++ done,
          (d.layoutFrom width indent mode rest column).2) := by
  induction d generalizing indent mode rest column done with
  | empty => rfl
  | text style content => rfl
  | line => cases mode <;> rfl
  | hardline => rfl
  | append first second ihf ihs =>
      simp only [layoutOnto, layoutFrom, ihf, ihs, List.reverse_append, List.append_assoc]
  | nest more inner ih => simp only [layoutOnto, layoutFrom, ih]
  | group inner ih => cases mode <;> simp only [layoutOnto, layoutFrom, ih]

/-- The pieces of a document laid out within a width. -/
def layout (width : Nat) (d : Doc) : List Piece := (d.layoutOnto width 0 .broken [] 0 []).1.reverse

/-- The layout of a document is made of its own pieces, in order. -/
theorem layout_eq (width : Nat) (d : Doc)
    : d.layout width = (d.layoutFrom width 0 .broken [] 0).1 := by
  simp only [layout, layoutOnto_eq, List.append_nil, List.reverse_reverse]

end Doc

end Backchain
