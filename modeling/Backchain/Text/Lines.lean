/-! Splitting text into lines. -/

namespace Backchain.Text

/-- Drops a carriage return at the end of a line given in reverse. -/
def dropReturn : List Char → List Char
  | '\r' :: rest => rest
  | line => line

/-- The lines of a text, given the characters of the current line in reverse. A line ends at a
newline or at a carriage return and a newline; no empty line follows the last newline.
-/
def linesFrom (current : List Char) : List Char → List (List Char)
  | [] => if current.isEmpty then [] else [current.reverse]
  | '\n' :: rest => (dropReturn current).reverse :: linesFrom [] rest
  | c :: rest => linesFrom (c :: current) rest

/-- The lines of a text without their ends. -/
def lines (s : String) : List String := (linesFrom [] s.toList).map String.ofList

/-- The text of the given lines, each ended by a newline. -/
def unlines (lines : List String) : String := String.join (lines.map (fun line => line ++ "\n"))

theorem toList_unlines_cons (line : String) (rest : List String)
    : (unlines (line :: rest)).toList = line.toList ++ '\n' :: (unlines rest).toList := by
  simp [unlines]

/-- A line is read up to its end if it has no newline in it, by induction on the line. -/
theorem linesFrom_append {line : List Char} (unbroken : ∀ c ∈ line, c ≠ '\n')
    (current rest : List Char)
    : linesFrom current (line ++ rest) = linesFrom (line.reverse ++ current) rest := by
  induction line generalizing current with
  | nil => rfl
  | cons c line ih =>
      have here : c ≠ '\n' := unbroken c List.mem_cons_self
      have later := ih (fun other member => unbroken other (List.mem_cons_of_mem c member))
        (c :: current)
      simpa [linesFrom, here] using later

/-- A text that is one line by itself: it is not empty, has no newline in it and does not end in a
carriage return.
-/
structure IsLine (line : String) : Prop where
  unbroken : '\n' ∉ line.toList
  filled : line.toList ≠ []
  ended : line.toList.getLast? ≠ some '\r'

namespace IsLine

variable {line : String} (whole : IsLine line)

include whole

theorem linesFrom_append (rest : List Char)
    : linesFrom [] (line.toList ++ rest) = linesFrom line.toList.reverse rest := by
  have unbroken : ∀ c ∈ line.toList, c ≠ '\n' := by
    rintro c member rfl
    exact whole.unbroken member
  rw [Text.linesFrom_append unbroken, List.append_nil]

theorem linesFrom_last : linesFrom [] line.toList = [line.toList] := by
  have only := whole.linesFrom_append []
  rw [List.append_nil] at only
  rw [only, linesFrom, if_neg (by simpa using whole.filled), List.reverse_reverse]

theorem linesFrom_newline (rest : List Char)
    : linesFrom [] (line.toList ++ '\n' :: rest) = line.toList :: linesFrom [] rest := by
  have kept : dropReturn line.toList.reverse = line.toList.reverse := by
    have ended := whole.ended
    rw [← List.head?_reverse] at ended
    rw [dropReturn.eq_def]
    split
    next starts => exact absurd (starts ▸ rfl) ended
    next => rfl
  rw [whole.linesFrom_append, linesFrom, kept, List.reverse_reverse]

end IsLine

/-- Lines that are each ended by a newline are read back, by induction on the lines. -/
theorem linesFrom_unlines {lines : List String} (each : ∀ line ∈ lines, IsLine line)
    : linesFrom [] (unlines lines).toList = lines.map String.toList := by
  induction lines with
  | nil => rfl
  | cons line rest ih =>
      obtain ⟨whole, others⟩ := List.forall_mem_cons.mp each
      rw [toList_unlines_cons, whole.linesFrom_newline, ih others, List.map_cons]

/-- Lines that are joined by newlines are read back, by induction on the lines. -/
theorem linesFrom_intercalate {lines : List String} (each : ∀ line ∈ lines, IsLine line)
    : linesFrom [] ("\n".intercalate lines).toList = lines.map String.toList := by
  induction lines with
  | nil => rfl
  | cons line rest ih =>
      obtain ⟨whole, others⟩ := List.forall_mem_cons.mp each
      cases rest with
      | nil => exact String.intercalate_singleton ▸ whole.linesFrom_last
      | cons next rest =>
          have chars : ("\n".intercalate (line :: next :: rest)).toList
              = line.toList ++ '\n' :: ("\n".intercalate (next :: rest)).toList := by
            simp
          rw [chars, whole.linesFrom_newline, ih others]
          rfl

end Backchain.Text
