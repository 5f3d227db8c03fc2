import Backchain.Term.Printer

/-! Documents on one line. A document that forces no newline has a text and a width there. The
document of a term is one of these, its breakable lines are all inside groups, and on one line it
reads as the term is written.
-/

namespace Backchain

/-- The text of pieces without their styles. -/
def Piece.written (pieces : List Piece) : String :=
  String.join ((pieces.flatMap Piece.calls).flatMap Call.plain)

theorem Piece.written_append (first second : List Piece)
    : written (first ++ second) = written first ++ written second := by
  simp [written, String.join_append]

theorem Piece.written_text (style : Option Style) (content : String)
    : written [.text style content] = content := by
  cases style <;> simp [written, calls, Call.plain]

theorem Piece.written_newline (indent : Nat)
    : written [.newline indent] = "\n" ++ String.ofList (List.replicate indent ' ') := by
  simp [written, calls, Call.plain]

namespace Doc

-----------------------------------------------------------------------------------------
-- One line
-----------------------------------------------------------------------------------------

/-- The pieces of a document on one line. -/
def flatPieces : Doc → List Piece
  | .empty => []
  | .text style content => [.text style content]
  | .line => [.blank]
  | .hardline => []
  | .append first second => first.flatPieces ++ second.flatPieces
  | .nest _ inner => inner.flatPieces
  | .group inner => inner.flatPieces

/-- Whether nothing in a document forces a newline. -/
def canBeFlat : Doc → Bool
  | .hardline => false
  | .append first second => first.canBeFlat && second.canBeFlat
  | .nest _ inner => inner.canBeFlat
  | .group inner => inner.canBeFlat
  | _ => true

/-- The columns that a document takes on one line, up to the first newline that it forces. -/
def flatWidth (measure : String → Nat) : Doc → Nat
  | .empty => 0
  | .text _ content => measure content
  | .line => 1
  | .hardline => 0
  | .append first second =>
      first.flatWidth measure + if first.canBeFlat then second.flatWidth measure else 0
  | .nest _ inner => inner.flatWidth measure
  | .group inner => inner.flatWidth measure

/-- The columns that documents take on one line, up to the first newline that one of them forces. -/
def lineWidth (measure : String → Nat) : List Doc → Nat
  | [] => 0
  | d :: rest => d.flatWidth measure + if d.canBeFlat then lineWidth measure rest else 0

theorem flatWidth_append {measure : String → Nat} {first : Doc} (flat : first.canBeFlat = true)
    (second : Doc)
    : (first ++ second).flatWidth measure = first.flatWidth measure + second.flatWidth measure := by
  have whole : (first ++ second).flatWidth measure
      = first.flatWidth measure + if first.canBeFlat then second.flatWidth measure else 0 :=
    rfl
  rw [whole, if_pos flat]

theorem lineWidth_cons {measure : String → Nat} {d : Doc} (flat : d.canBeFlat = true)
    (rest : List Doc)
    : lineWidth measure (d :: rest) = d.flatWidth measure + lineWidth measure rest := by
  rw [lineWidth, if_pos flat]

/-- Two parts take the same columns whether they are one document or follow each other. -/
theorem lineWidth_append {measure : String → Nat} {first : Doc} (flat : first.canBeFlat = true)
    (second : Doc) (rest : List Doc)
    : lineWidth measure ((first ++ second) :: rest)
      = lineWidth measure (first :: second :: rest) := by
  have whole : (first ++ second).canBeFlat = second.canBeFlat :=
    (congrArg (· && second.canBeFlat) flat).trans (Bool.true_and _)
  rw [lineWidth, whole, flatWidth_append flat, lineWidth_cons flat, lineWidth, Nat.add_assoc]

/-- Whether nothing forces a newline and each breakable line is inside a group. -/
def isGrouped : Doc → Bool
  | .line => false
  | .hardline => false
  | .append first second => first.isGrouped && second.isGrouped
  | .nest _ inner => inner.isGrouped
  | .group inner => inner.canBeFlat
  | _ => true

@[simp] theorem isGrouped_text (style : Option Style) (content : String)
    : (Doc.text style content).isGrouped = true :=
  rfl

@[simp] theorem isGrouped_append (first second : Doc)
    : (first ++ second).isGrouped = (first.isGrouped && second.isGrouped) :=
  rfl

theorem canBeFlat_of_isGrouped {d : Doc} (grouped : d.isGrouped = true) : d.canBeFlat = true := by
  induction d with
  | empty => rfl
  | text style content => rfl
  | line => cases grouped
  | hardline => cases grouped
  | append first second ihf ihs =>
      obtain ⟨left, right⟩ := Bool.and_eq_true_iff.mp grouped
      exact Bool.and_eq_true_iff.mpr ⟨ihf left, ihs right⟩
  | nest more inner ih => exact ih grouped
  | group inner ih => exact grouped

/-- A document that can be laid out on one line reads there as a given text. -/
structure Reads (d : Doc) (content : String) : Prop where
  flat : d.canBeFlat = true
  written : Piece.written d.flatPieces = content

namespace Reads

variable {d first second : Doc} {content next : String}

theorem text (style : Option Style) (content : String) : (Doc.text style content).Reads content :=
  ⟨rfl, Piece.written_text style content⟩

theorem line : Doc.line.Reads " " := ⟨rfl, rfl⟩

theorem append (left : first.Reads content) (right : second.Reads next)
    : (first ++ second).Reads (content ++ next) where
  flat := Bool.and_eq_true_iff.mpr ⟨left.flat, right.flat⟩
  written := (Piece.written_append _ _).trans (by rw [left.written, right.written])

theorem nest (inner : d.Reads content) (more : Nat) : (Doc.nest more d).Reads content :=
  ⟨inner.flat, inner.written⟩

theorem group (inner : d.Reads content) : (Doc.group d).Reads content :=
  ⟨inner.flat, inner.written⟩

end Reads

end Doc

-----------------------------------------------------------------------------------------
-- Terms
-----------------------------------------------------------------------------------------

namespace Term

mutual
/-- A term on one line. -/
def flatText : Term → String
  | .var x => x.display
  | .app head [] => head
  | .app head (arg :: rest) => head ++ "(" ++ arg.flatText ++ flatTextRest rest ++ ")"
  | .abs binder body => "\\" ++ binder.display ++ ". " ++ body.flatText

/-- Further arguments on one line, each after a comma. -/
def flatTextRest : List Term → String
  | [] => ""
  | t :: rest => ", " ++ t.flatText ++ flatTextRest rest
end

theorem reads_docRest {ts : List Term}
    (each : ∀ t ∈ ts, ∀ depth, (t.docAt depth).Reads t.flatText) (depth : UInt8)
    : (docRest depth ts).Reads (flatTextRest ts) := by
  induction ts with
  | nil => exact ⟨rfl, rfl⟩
  | cons t rest ih =>
      have first := each t List.mem_cons_self depth
      have others := ih fun u member => each u (List.mem_cons_of_mem t member)
      exact (((Doc.Reads.text _ ",").append .line).append first).append others

/-- On one line the document of a term reads as the term, by induction on the term. -/
theorem reads_docAt (t : Term) (depth : UInt8) : (t.docAt depth).Reads t.flatText := by
  induction t generalizing depth with
  | var x => exact .text _ x.display
  | app head args ih =>
      cases args with
      | nil => exact .text _ head
      | cons arg rest =>
          have first := ih arg List.mem_cons_self (depth + 1)
          have others := reads_docRest (fun t member => ih t (List.mem_cons_of_mem arg member))
            (depth + 1)
          have opened := (Doc.Reads.text (some .constructor) head).append
            (.text (some (.paren depth)) "(")
          have filled := opened.append ((first.append others).nest 2).group
          have closed := (filled.append (.text (some (.paren depth)) ")")).group
          have reading : head ++ "(" ++ (arg.flatText ++ flatTextRest rest) ++ ")"
              = (Term.app head (arg :: rest)).flatText := by
            simp only [flatText, String.append_assoc]
          exact reading ▸ closed
  | abs binder body ih =>
      have named := ((Doc.Reads.text (some .punctuation) "\\").append
        (.text (some .identifier) binder.display)).append (.text (some .punctuation) ".")
      have whole := (((named.append .line).append (ih depth)).nest 2).group
      have dotted : "\\" ++ binder.display ++ "." ++ " " = "\\" ++ binder.display ++ ". " :=
        String.append_assoc
      rw [dotted] at whole
      exact whole

theorem isGrouped_doc (t : Term) : t.doc.isGrouped = true := by
  have flat := (t.reads_docAt 0).flat
  cases t with
  | var x => rfl
  | app head args =>
      cases args with
      | nil => rfl
      | cons arg rest => exact flat
  | abs binder body => exact flat

end Term

end Backchain
