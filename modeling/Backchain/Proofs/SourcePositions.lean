import Mathlib.Data.List.TakeWhile
import Mathlib.Data.Prod.Lex
import Mathlib.Order.Bounds.Basic
import Backchain.Span
import Backchain.Text.Lines

/-! Positions in a source. An offset counts bytes and may be inside a character or past the end; the
position at it is that of the nearest boundary between characters before it. From one boundary to
the next a character is added to the text before, which moves the position to the next column or to
the start of the next line.
-/

namespace Backchain

namespace Span

-----------------------------------------------------------------------------------------
-- Boundaries
-----------------------------------------------------------------------------------------

/-- An offset at which a character starts or the source ends. -/
def IsBoundary (source : String) (offset : Nat) : Prop :=
  (⟨offset⟩ : String.Pos.Raw).IsValid source

instance (source : String) (offset : Nat) : Decidable (IsBoundary source offset) :=
  inferInstanceAs (Decidable ((⟨offset⟩ : String.Pos.Raw).IsValid source))

/-- A boundary is the length of a text that the source starts with. -/
theorem isBoundary_iff {source : String} {offset : Nat}
    : IsBoundary source offset
      ↔ ∃ before after : String, source = before ++ after ∧ before.utf8ByteSize = offset := by
  rw [IsBoundary, String.Pos.Raw.isValid_iff_exists_append]
  simp only [String.Pos.Raw.ext_iff, String.byteIdx_rawEndPos, eq_comm]

/-- Of two texts that a source starts with, the longer one continues the shorter one. -/
theorem exists_continuation {before after more rest : String}
    (same : before ++ after = more ++ rest) (longer : before.utf8ByteSize < more.utf8ByteSize)
    : ∃ middle ≠ [], more.toList = before.toList ++ middle := by
  have chars := congrArg String.toList same
  rw [String.toList_append, String.toList_append, List.append_eq_append_iff] at chars
  rcases chars with ⟨middle, continued, -⟩ | ⟨middle, continued, -⟩
  · refine ⟨middle, ?_, continued⟩
    rintro rfl
    rw [List.append_nil, String.toList_inj] at continued
    exact absurd longer (continued ▸ Nat.lt_irrefl _)
  · have shorter : before = more ++ String.ofList middle := by
      rw [← String.toList_inj, continued, String.toList_append, String.toList_ofList]
    rw [shorter, String.utf8ByteSize_append] at longer
    exact absurd longer (Nat.not_lt.mpr (Nat.le_add_right _ _))

/-- Steps back from an offset to a boundary, as long as there is an offset before. -/
def stepBack? (source : String) : Nat → Option Nat
  | 0 => if IsBoundary source 0 then some 0 else none
  | offset + 1 => if IsBoundary source (offset + 1) then some (offset + 1)
      else stepBack? source offset

/-- The nearest boundary at an offset in the source or before it. -/
def NearestBoundary (source : String) (offset boundary : Nat) : Prop :=
  IsGreatest {other | IsBoundary source other ∧ other ≤ min offset source.utf8ByteSize} boundary

theorem isGreatest_self {source : String} {offset : Nat} (here : IsBoundary source offset)
    : IsGreatest {other | IsBoundary source other ∧ other ≤ offset} offset :=
  ⟨⟨here, Nat.le_refl offset⟩, fun _ other => other.2⟩

/-- Stepping back ends at the nearest boundary, by induction on the offset: zero is one. -/
theorem exists_stepBack? (source : String) (offset : Nat)
    : ∃ boundary, stepBack? source offset = some boundary
        ∧ IsGreatest {other | IsBoundary source other ∧ other ≤ offset} boundary := by
  induction offset with
  | zero =>
      have start : IsBoundary source 0 := String.Pos.Raw.isValid_zero
      exact ⟨0, if_pos start, isGreatest_self start⟩
  | succ offset ih =>
      by_cases here : IsBoundary source (offset + 1)
      · exact ⟨offset + 1, if_pos here, isGreatest_self here⟩
      · obtain ⟨boundary, found, ⟨valid, before⟩, greatest⟩ := ih
        refine ⟨boundary, (if_neg here).trans found, ⟨valid, Nat.le_succ_of_le before⟩, ?_⟩
        rintro other ⟨valid, within⟩
        rcases Nat.of_le_succ within with within | rfl
        · exact greatest ⟨valid, within⟩
        · exact absurd valid here

-----------------------------------------------------------------------------------------
-- The text before an offset
-----------------------------------------------------------------------------------------

theorem charsBefore_append (before after : String) (more : Nat)
    : charsBefore (before ++ after).toList (before.utf8ByteSize + more)
      = before.toList ++ charsBefore after.toList more := by
  obtain ⟨cs, rfl⟩ := before.exists_eq_ofList
  induction cs with
  | nil => simp
  | cons c rest ih =>
      have counted : (String.ofList (c :: rest)).utf8ByteSize + more
          = c.utf8Size + ((String.ofList rest).utf8ByteSize + more) := by
        rw [String.ofList_cons, String.utf8ByteSize_append, String.utf8ByteSize_singleton,
          Nat.add_assoc]
      simp only [String.toList_append, String.toList_ofList, List.cons_append] at ih ⊢
      rw [counted, charsBefore, if_pos (Nat.le_add_right _ _), Nat.add_sub_cancel_left, ih]

theorem charsBefore_zero (cs : List Char) : charsBefore cs 0 = [] := by
  cases cs with
  | nil => rfl
  | cons c rest => exact if_neg (Nat.not_le.mpr c.utf8Size_pos)

/-- Before a boundary stands the whole text whose length it is. -/
theorem charsBefore_size (before after : String)
    : charsBefore (before ++ after).toList before.utf8ByteSize = before.toList := by
  have split := charsBefore_append before after 0
  rwa [charsBefore_zero, List.append_nil] at split

/-- The text before an offset is the one before the nearest boundary: one more character would end
at a boundary nearer by.
-/
theorem charsBefore_of_nearest {source : String} {offset boundary : Nat}
    (nearest : NearestBoundary source offset boundary)
    : charsBefore source.toList offset = charsBefore source.toList boundary := by
  obtain ⟨⟨valid, within⟩, greatest⟩ := nearest
  obtain ⟨before, after, rfl, rfl⟩ := isBoundary_iff.mp valid
  obtain ⟨more, rfl⟩ := Nat.exists_eq_add_of_le (Nat.le_trans within (Nat.min_le_left _ _))
  rw [charsBefore_append, charsBefore_size]
  obtain ⟨cs, rfl⟩ := after.exists_eq_ofList
  cases cs with
  | nil => simp [charsBefore]
  | cons c rest =>
      have short : ¬ c.utf8Size ≤ more := by
        intro fits
        have next : IsBoundary (before ++ String.ofList (c :: rest))
            (before.utf8ByteSize + c.utf8Size) := by
          refine isBoundary_iff.mpr ⟨before.push c, String.ofList rest, ?_, ?_⟩
          · rw [String.ofList_cons, ← String.append_assoc, String.append_singleton]
          · exact String.utf8ByteSize_push
        have past := greatest ⟨next, Nat.le_min.mpr ⟨Nat.add_le_add_left fits _, ?_⟩⟩
        · exact Nat.not_le.mpr (Nat.lt_add_of_pos_right c.utf8Size_pos) past
        · exact next.le_utf8ByteSize
      rw [String.toList_ofList, charsBefore, if_neg short, List.append_nil]

-----------------------------------------------------------------------------------------
-- Positions
-----------------------------------------------------------------------------------------

/-- The line and the column of a span, ordered by lines and within a line by columns. -/
def position (span : Span) : ℕ ×ₗ ℕ := toLex (span.line, span.column)

/-- The position after a text. -/
def positionAfter (before : List Char) : ℕ ×ₗ ℕ := toLex (lineAfter before, columnAfter before)

theorem position_inSource (file : Option String) (source : String) (range : OffsetRange)
    : (inSource file source range).position
      = positionAfter (charsBefore source.toList range.start) :=
  rfl

/-- A character moves the position on: a newline to the next line, another to the next column. -/
theorem positionAfter_lt_push (before : List Char) (c : Char)
    : positionAfter before < positionAfter (before ++ [c]) := by
  rw [positionAfter, positionAfter, Prod.Lex.toLex_lt_toLex]
  by_cases newline : c = '\n'
  · left
    simp [lineAfter, newline]
  · right
    simp [lineAfter, columnAfter, newline]

theorem positionAfter_lt_append (before : List Char) {more : List Char} (nonempty : more ≠ [])
    : positionAfter before < positionAfter (before ++ more) := by
  induction more generalizing before with
  | nil => exact absurd rfl nonempty
  | cons c rest ih =>
      have pushed := positionAfter_lt_push before c
      cases rest with
      | nil => exact pushed
      | cons d rest =>
          have further := ih (before ++ [c]) (List.cons_ne_nil d rest)
          rw [List.append_assoc, List.singleton_append] at further
          exact pushed.trans further

/-- After a newline the position starts over one line below. -/
theorem positionAfter_newline {line : List Char} (unbroken : '\n' ∉ line) (more : List Char)
    : positionAfter (line ++ '\n' :: more) = toLex (lineAfter more + 1, columnAfter more) := by
  have below : lineAfter (line ++ '\n' :: more) = lineAfter more + 1 := by
    rw [lineAfter, lineAfter, List.count_append, List.count_cons_self,
      List.count_eq_zero.mpr unbroken, Nat.zero_add, Nat.add_assoc]
  have column : columnAfter (line ++ '\n' :: more) = columnAfter more := by
    rw [columnAfter, columnAfter, List.reverse_append, List.reverse_cons, List.append_assoc,
      List.takeWhile_append]
    split
    next unbroken =>
        rw [unbroken]
        simp
    next broken => rfl
  rw [positionAfter, below, column]

/-- After whole lines and a part of the next line, the line is the one after them and the column
counts the characters of the part, by induction on the lines.
-/
theorem positionAfter_unlines {lines : List String} {part : String}
    (whole : ∀ line ∈ lines, '\n' ∉ line.toList) (unbroken : '\n' ∉ part.toList)
    : positionAfter (Text.unlines lines ++ part).toList
      = toLex (lines.length + 1, part.length + 1) := by
  induction lines with
  | nil =>
      have kept : ∀ c ∈ part.toList.reverse, decide (c ≠ '\n') = true := by
        intro c member
        exact decide_eq_true fun same => unbroken (same ▸ List.mem_reverse.mp member)
      have text : Text.unlines [] ++ part = part := String.empty_append
      rw [text, positionAfter, lineAfter, columnAfter, List.count_eq_zero.mpr unbroken,
        List.takeWhile_eq_self_iff.mpr kept, List.length_reverse, String.length_toList,
        Nat.add_comm 1 part.length]
      rfl
  | cons line rest ih =>
      have below := ih fun other member => whole other (List.mem_cons_of_mem line member)
      obtain ⟨lines, columns⟩ := Prod.mk.inj (toLex.injective below)
      have text : (Text.unlines (line :: rest) ++ part).toList
          = line.toList ++ '\n' :: (Text.unlines rest ++ part).toList := by
        simp [Text.toList_unlines_cons]
      rw [text, positionAfter_newline (whole line List.mem_cons_self), lines, columns]
      rfl

/-- Every offset has a position, and positions are in the order of the source. Stepping back from an
offset within the source always ends, at the nearest boundary between characters, and the position
depends on nothing but that boundary; the span keeps the range that it is given. The position of the
start is line one and column one, and after whole lines and a part of the next one it tells their
number and its length. Of two boundaries the later one has the later position.
-/
theorem inSource_ordered (file : Option String) (source : String)
    : (∀ range : OffsetRange,
        (inSource file source range).range = range
        ∧ ∃ boundary,
            stepBack? source (min range.start source.utf8ByteSize) = some boundary
            ∧ NearestBoundary source range.start boundary
            ∧ ∀ (name : Option String) (stop : Nat),
                (inSource file source range).position
                = (inSource name source ⟨boundary, stop⟩).position)
      ∧ (∀ stop : Nat, (inSource file source ⟨0, stop⟩).position = toLex (1, 1))
      ∧ (∀ (lines : List String) (part after : String) (stop : Nat),
          source = Text.unlines lines ++ part ++ after
          → (∀ line ∈ lines, '\n' ∉ line.toList)
          → '\n' ∉ part.toList
          → (inSource file source ⟨(Text.unlines lines ++ part).utf8ByteSize, stop⟩).position
            = toLex (lines.length + 1, part.length + 1))
      ∧ ∀ range other : OffsetRange,
          IsBoundary source range.start
          → IsBoundary source other.start
          → range.start < other.start
          → (inSource file source range).position < (inSource file source other).position := by
  refine ⟨fun range => ⟨rfl, ?_⟩, fun stop => ?_, ?_, ?_⟩
  · obtain ⟨boundary, found, nearest⟩ :=
      exists_stepBack? source (min range.start source.utf8ByteSize)
    refine ⟨boundary, found, nearest, fun name stop => ?_⟩
    rw [position_inSource, position_inSource, charsBefore_of_nearest nearest]
  · rw [position_inSource, charsBefore_zero]
    rfl
  · rintro lines part after stop rfl whole unbroken
    rw [position_inSource, charsBefore_size]
    exact positionAfter_unlines whole unbroken
  · intro range other first second earlier
    obtain ⟨before, after, rfl, start⟩ := isBoundary_iff.mp first
    obtain ⟨more, rest, split, later⟩ := isBoundary_iff.mp second
    obtain ⟨middle, nonempty, continued⟩ := exists_continuation split (by omega)
    rw [position_inSource, position_inSource, ← start, charsBefore_size, split, ← later,
      charsBefore_size, continued]
    exact positionAfter_lt_append before.toList nonempty

/-- A source with characters of two bytes, one of them the third of the second line. -/
def lambdaSource : String := "aé\n  λx"

/-- The letter lambda takes two bytes, and the letter after it is one column further on. -/
theorem inSource_ordered_of_lambdaSource
    : lambdaSource = Text.unlines ["aé"] ++ "  " ++ "λx"
      ∧ (inSource none lambdaSource ⟨6, 8⟩).position = toLex (2, 3)
      ∧ IsBoundary lambdaSource 6
      ∧ ¬ IsBoundary lambdaSource 7
      ∧ IsBoundary lambdaSource 8
      ∧ (inSource none lambdaSource ⟨6, 8⟩).position
        < (inSource none lambdaSource ⟨8, 9⟩).position := by
  have split : lambdaSource = Text.unlines ["aé"] ++ "  " ++ "λx" := by decide
  have first : IsBoundary lambdaSource 6 := by decide
  have second : IsBoundary lambdaSource 8 := by decide
  obtain ⟨-, -, after, ordered⟩ := inSource_ordered none lambdaSource
  refine ⟨split, ?_, first, by decide, second, ?_⟩
  · exact after ["aé"] "  " "λx" 8 split (by decide) (by decide)
  · exact ordered ⟨6, 8⟩ ⟨8, 9⟩ first second (by decide)

end Span

end Backchain
