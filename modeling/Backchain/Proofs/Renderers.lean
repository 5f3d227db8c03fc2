import Backchain.Proofs.FlatLayout

/-! What renderers may do. Any renderer writes a breakable line as a space or as a newline with its
indentation. One that fills lines also breaks a group only where its flat form and the rest of the
line do not fit; then a document whose breakable lines are all inside groups is written on one line
if it fits there with what follows it. The renderer of layouts is one of these.
-/

namespace Backchain

-----------------------------------------------------------------------------------------
-- Plain text
-----------------------------------------------------------------------------------------

namespace Text

/-- Whether a text is made of printable ASCII characters, the space among them. -/
def isPlain (s : String) : Bool := s.toList.all (fun c => 0x20 ≤ c.toNat && c.toNat < 0x7f)

theorem isPlain_append (s t : String) : isPlain (s ++ t) = (isPlain s && isPlain t) := by
  simp [isPlain, String.toList_append]

theorem isPlain_iff {s : String}
    : isPlain s = true ↔ ∀ c ∈ s.toList, 0x20 ≤ c.toNat ∧ c.toNat < 0x7f := by
  simp [isPlain]

theorem displayWidth_of_isPlain {s : String} (plain : isPlain s = true)
    : displayWidth s = s.length := by
  refine displayWidth_of_ascii fun c member => ?_
  have bound := isPlain_iff.mp plain c member
  omega

end Text

-----------------------------------------------------------------------------------------
-- Layouts
-----------------------------------------------------------------------------------------

namespace Doc

/-- The texts that a document may be written as: a breakable line is a space or a newline, and after
a newline there are any number of spaces.
-/
inductive WrittenAs : Doc → String → Prop
  | empty : WrittenAs .empty ""
  | text (style : Option Style) (content : String) : WrittenAs (.text style content) content
  | blank : WrittenAs .line " "
  | newline (indent : Nat)
    : WrittenAs .line ("\n" ++ String.ofList (List.replicate indent ' '))
  | hardline (indent : Nat)
    : WrittenAs .hardline ("\n" ++ String.ofList (List.replicate indent ' '))
  | append {first second : Doc} {text next : String} (left : WrittenAs first text)
    (right : WrittenAs second next)
    : WrittenAs (first ++ second) (text ++ next)
  | nest (more : Nat) {inner : Doc} {text : String} (inside : WrittenAs inner text)
    : WrittenAs (.nest more inner) text
  | group {inner : Doc} {text : String} (inside : WrittenAs inner text)
    : WrittenAs (.group inner) text

/-- Whether the flat form of a document and the rest of the line stay within the width. The rest of
the line goes on to the next newline that cannot be left out.
-/
def Fits (measure : String → Nat) (width : Nat) (d : Doc) (rest : List Doc) (column : Nat) : Prop :=
  d.canBeFlat = true ∧ column + lineWidth measure (d :: rest) ≤ width

/-- The layouts of a document within a width, from its indentation, its mode, the documents that
follow it and the column at which it starts to its text and the column at which it ends. Lines are
broken in broken mode, and all groups inside a flat one are flat. A group is broken only if it does
not fit; whether one that does not fit is broken is left open.
-/
inductive Laid (measure : String → Nat) (width : Nat)
    : Doc → Nat → Mode → List Doc → Nat → String → Nat → Prop
  | empty (indent : Nat) (mode : Mode) (rest : List Doc) (column : Nat)
    : Laid measure width .empty indent mode rest column "" column
  | text (style : Option Style) (content : String) (indent : Nat) (mode : Mode) (rest : List Doc)
    (column : Nat)
    : Laid measure width (.text style content) indent mode rest column content
        (column + measure content)
  | blank (indent : Nat) (rest : List Doc) (column : Nat)
    : Laid measure width .line indent .flat rest column " " (column + 1)
  | newline (indent : Nat) (rest : List Doc) (column : Nat)
    : Laid measure width .line indent .broken rest column
        ("\n" ++ String.ofList (List.replicate indent ' ')) indent
  | hardline (indent : Nat) (mode : Mode) (rest : List Doc) (column : Nat)
    : Laid measure width .hardline indent mode rest column
        ("\n" ++ String.ofList (List.replicate indent ' ')) indent
  | append {first second : Doc} {indent : Nat} {mode : Mode} {rest : List Doc}
    {column middle after : Nat} {text next : String}
    (left : Laid measure width first indent mode (second :: rest) column text middle)
    (right : Laid measure width second indent mode rest middle next after)
    : Laid measure width (first ++ second) indent mode rest column (text ++ next) after
  | nest {more : Nat} {inner : Doc} {indent : Nat} {mode : Mode} {rest : List Doc}
    {column after : Nat} {text : String}
    (inside : Laid measure width inner (indent + more) mode rest column text after)
    : Laid measure width (.nest more inner) indent mode rest column text after
  | flat {inner : Doc} {indent : Nat} {mode : Mode} {rest : List Doc} {column after : Nat}
    {text : String} (inside : Laid measure width inner indent .flat rest column text after)
    : Laid measure width (.group inner) indent mode rest column text after
  | broken {inner : Doc} {indent : Nat} {rest : List Doc} {column after : Nat} {text : String}
    (wide : ¬ Fits measure width inner rest column)
    (inside : Laid measure width inner indent .broken rest column text after)
    : Laid measure width (.group inner) indent .broken rest column text after

namespace Laid

variable {measure : String → Nat} {width : Nat} {d : Doc} {indent column after : Nat} {mode : Mode}
  {rest : List Doc} {text : String}

theorem writtenAs (laid : Laid measure width d indent mode rest column text after)
    : d.WrittenAs text := by
  induction laid with
  | empty => exact .empty
  | text style content => exact .text style content
  | blank => exact .blank
  | newline indent => exact .newline indent
  | hardline indent => exact .hardline indent
  | append _ _ left right => exact .append left right
  | nest _ inside => exact .nest _ inside
  | flat _ inside => exact .group inside
  | broken _ _ inside => exact .group inside

/-- A flat layout is the document on one line, by induction on the document. -/
theorem eq_of_flat (flat : d.canBeFlat = true)
    (laid : Laid measure width d indent .flat rest column text after)
    : text = Piece.written d.flatPieces ∧ after = column + d.flatWidth measure := by
  induction d generalizing indent rest column text after with
  | empty =>
      cases laid
      exact ⟨rfl, rfl⟩
  | text style content =>
      cases laid
      exact ⟨(Piece.written_text style content).symm, rfl⟩
  | line =>
      cases laid
      exact ⟨rfl, rfl⟩
  | hardline => cases flat
  | append first second ihf ihs =>
      obtain ⟨here, there⟩ := Bool.and_eq_true_iff.mp flat
      cases laid with
      | append left right =>
          obtain ⟨rfl, rfl⟩ := ihf here left
          obtain ⟨rfl, rfl⟩ := ihs there right
          refine ⟨(Piece.written_append _ _).symm, ?_⟩
          rw [Nat.add_assoc, ← flatWidth_append here]
          rfl
  | nest more inner ih =>
      cases laid with
      | nest inside => exact ih flat inside
  | group inner ih =>
      cases laid with
      | flat inside => exact ih flat inside

/-- A document whose breakable lines are in groups is laid out on one line if it fits there with
what follows, by induction on the document. A part of it is followed by the parts after it.
-/
theorem eq_of_isGrouped (grouped : d.isGrouped = true)
    (fits : column + lineWidth measure (d :: rest) ≤ width)
    (laid : Laid measure width d indent .broken rest column text after)
    : text = Piece.written d.flatPieces ∧ after = column + d.flatWidth measure := by
  induction d generalizing indent rest column text after with
  | empty =>
      cases laid
      exact ⟨rfl, rfl⟩
  | text style content =>
      cases laid
      exact ⟨(Piece.written_text style content).symm, rfl⟩
  | line => cases grouped
  | hardline => cases grouped
  | append first second ihf ihs =>
      obtain ⟨here, there⟩ := Bool.and_eq_true_iff.mp grouped
      have flat := canBeFlat_of_isGrouped here
      cases laid with
      | append left right =>
          have parts : column + lineWidth measure (first :: second :: rest) ≤ width :=
            lineWidth_append flat second rest ▸ fits
          obtain ⟨rfl, rfl⟩ := ihf here parts left
          rw [lineWidth_cons flat, ← Nat.add_assoc] at parts
          obtain ⟨rfl, rfl⟩ := ihs there parts right
          refine ⟨(Piece.written_append _ _).symm, ?_⟩
          rw [Nat.add_assoc, ← flatWidth_append flat]
          rfl
  | nest more inner ih =>
      cases laid with
      | nest inside => exact ih grouped fits inside
  | group inner ih =>
      have flat : inner.canBeFlat = true := grouped
      cases laid with
      | flat inside =>
          have line := eq_of_flat flat inside
          exact line
      | broken wide inside => exact absurd ⟨flat, fits⟩ wide

end Laid

-----------------------------------------------------------------------------------------
-- Scans
-----------------------------------------------------------------------------------------

/-- The scan of a flat form goes to its end if that is within the width, by induction on the
document.
-/
theorem flatEnd?_of_le {width : Nat} {d : Doc} (flat : d.canBeFlat = true) {column : Nat}
    (within : column + d.flatWidth Text.displayWidth ≤ width)
    : d.flatEnd? width column = some (column + d.flatWidth Text.displayWidth) := by
  induction d generalizing column with
  | empty => rfl
  | text style content => exact if_pos within
  | line => exact if_pos within
  | hardline => cases flat
  | append first second ihf ihs =>
      obtain ⟨here, there⟩ := Bool.and_eq_true_iff.mp flat
      have whole : column + (Doc.append first second).flatWidth Text.displayWidth
          = column + first.flatWidth Text.displayWidth + second.flatWidth Text.displayWidth := by
        rw [Nat.add_assoc, ← flatWidth_append here]
        rfl
      rw [whole] at within ⊢
      rw [flatEnd?, ihf here (Nat.le_trans (Nat.le_add_right _ _) within), Option.bind_some,
        ihs there within]
  | nest more inner ih => exact ih flat within
  | group inner ih => exact ih flat within

/-- The scan for a place to break stays within the width if the document does on one line, by
induction on the document.
-/
theorem reach_of_le {width : Nat} {d : Doc} {column : Nat}
    (within : column + d.flatWidth Text.displayWidth ≤ width)
    : d.reach width column = .newline
      ∨ d.canBeFlat = true
        ∧ d.reach width column = .column (column + d.flatWidth Text.displayWidth) := by
  induction d generalizing column with
  | empty => exact Or.inr ⟨rfl, rfl⟩
  | text style content =>
      have reached : columnWithin? width (column + Text.displayWidth content)
          = some (column + Text.displayWidth content) :=
        if_pos within
      rw [reach, reached]
      exact Or.inr ⟨rfl, rfl⟩
  | line => exact Or.inl rfl
  | hardline => exact Or.inl rfl
  | append first second ihf ihs =>
      rw [flatWidth, ← Nat.add_assoc] at within ⊢
      rw [reach]
      rcases ihf (Nat.le_trans (Nat.le_add_right _ _) within) with broken | ⟨flat, reached⟩
      · rw [broken]
        exact Or.inl rfl
      · rw [if_pos flat] at within ⊢
        rw [reached, canBeFlat, flat, Bool.true_and]
        exact ihs within
  | nest more inner ih => exact ih within
  | group inner ih => exact ih within

/-- The rest of a line fits if it does without a newline, by induction on the documents. -/
theorem restFits_of_le {width : Nat} {rest : List Doc} {column : Nat}
    (within : column + lineWidth Text.displayWidth rest ≤ width)
    : restFits width rest column = true := by
  induction rest generalizing column with
  | nil => rfl
  | cons d rest ih =>
      rw [lineWidth, ← Nat.add_assoc] at within
      rw [restFits]
      rcases reach_of_le (Nat.le_trans (Nat.le_add_right _ _) within) with broken | ⟨flat, reached⟩
      · rw [broken]
      · rw [if_pos flat] at within
        rw [reached]
        exact ih within

theorem Fits.fits_eq_true {width : Nat} {d : Doc} {rest : List Doc} {column : Nat}
    (within : Fits Text.displayWidth width d rest column)
    : fits width d rest column = true := by
  obtain ⟨flat, within⟩ := within
  rw [lineWidth_cons flat, ← Nat.add_assoc] at within
  rw [fits, flatEnd?_of_le flat (Nat.le_trans (Nat.le_add_right _ _) within)]
  exact restFits_of_le within

/-- The pieces of a document are a layout of it, by induction on the document. -/
theorem laid_layoutFrom (width : Nat) (d : Doc) (indent : Nat) (mode : Mode) (rest : List Doc)
    (column : Nat)
    : Laid Text.displayWidth width d indent mode rest column
        (Piece.written (d.layoutFrom width indent mode rest column).1)
        (d.layoutFrom width indent mode rest column).2 := by
  induction d generalizing indent mode rest column with
  | empty => exact .empty indent mode rest column
  | text style content =>
      rw [layoutFrom, Piece.written_text]
      exact .text style content indent mode rest column
  | line =>
      cases mode with
      | flat => exact .blank indent rest column
      | broken =>
          rw [layoutFrom, Piece.written_newline]
          exact .newline indent rest column
  | hardline =>
      rw [layoutFrom, Piece.written_newline]
      exact .hardline indent mode rest column
  | append first second ihf ihs =>
      rw [layoutFrom, Piece.written_append]
      exact .append (ihf indent mode (second :: rest) column) (ihs indent mode rest _)
  | nest more inner ih => exact .nest (ih (indent + more) mode rest column)
  | group inner ih =>
      cases mode with
      | flat => exact .flat (ih indent .flat rest column)
      | broken =>
          rw [layoutFrom]
          split
          next => exact .flat (ih indent .flat rest column)
          next wide => exact .broken (mt Fits.fits_eq_true wide) (ih indent .broken rest column)

end Doc

-----------------------------------------------------------------------------------------
-- Renderers
-----------------------------------------------------------------------------------------

namespace Renderer

/-- A renderer that writes a breakable line as a space or as a newline with its indentation. -/
def BreaksLines (renderer : Renderer) : Prop :=
  ∀ (width : Nat) (d : Doc), d.WrittenAs (renderer.text width d)

/-- A renderer that breaks a group only where its flat form and the rest of the line do not fit. How
many columns a text takes is told by a measure, which gives one to each printable ASCII character.
-/
structure FillsLines (renderer : Renderer) (measure : String → Nat) : Prop where
  measured : ∀ content, Text.isPlain content = true → measure content = content.length
  laid : ∀ (width : Nat) (d : Doc),
    ∃ column, d.Laid measure width 0 .broken [] 0 (renderer.text width d) column

theorem FillsLines.breaksLines {renderer : Renderer} {measure : String → Nat}
    (fills : renderer.FillsLines measure)
    : renderer.BreaksLines := by
  intro width d
  obtain ⟨_, laid⟩ := fills.laid width d
  exact laid.writtenAs

theorem standard_fillsLines : standard.FillsLines Text.displayWidth where
  measured _ := Text.displayWidth_of_isPlain
  laid width d := by
    have laid := Doc.laid_layoutFrom width d 0 .broken [] 0
    rw [← Doc.layout_eq] at laid
    exact ⟨_, laid⟩

end Renderer

end Backchain
