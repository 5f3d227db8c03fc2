import Backchain.Proofs.ProofLayout

/-! What the width and the colours of a rendering can change. All layouts of a document have the
same texts in the same order and differ in the gaps between them, each a space or a newline with its
indentation. In the document of a term every gap comes right after a mark, so that a gap can be told
from the text around it. Colours add terminal sequences around texts, and nothing else.
-/

namespace Backchain

namespace Text

-----------------------------------------------------------------------------------------
-- Joining lines, erasing terminal sequences
-----------------------------------------------------------------------------------------

/-- Replaces each newline and the spaces after it by one space. The flag tells whether spaces are
being passed over.
-/
def joinFrom : Bool → List Char → List Char
  | _, [] => []
  | _, '\n' :: rest => ' ' :: joinFrom true rest
  | true, ' ' :: rest => joinFrom true rest
  | _, c :: rest => c :: joinFrom false rest

/-- A text on one line, with a space for each newline and the spaces after it. -/
def joinLines (s : String) : String := String.ofList (joinFrom false s.toList)

/-- What follows a terminal sequence that changes the face, if a text starts with one: the
parameters are digits and semicolons.
-/
def afterSequence? : List Char → Option (List Char)
  | '\x1b' :: '[' :: rest =>
      match rest.dropWhile (fun c => c.isDigit || c = ';') with
      | 'm' :: after => some after
      | _ => none
  | _ => none

theorem length_afterSequence? {cs after : List Char} (found : afterSequence? cs = some after)
    : after.length < cs.length := by
  unfold afterSequence? at found
  split at found
  next rest =>
    split at found
    next dropped =>
      have kept : rest.dropWhile (fun c => c.isDigit || c = ';') <:+ rest :=
        List.dropWhile_suffix _
      have shorter := kept.length_le
      cases found
      rw [dropped, List.length_cons] at shorter
      simp only [List.length_cons]
      omega
    next => cases found
  next => cases found

/-- Erases the terminal sequences that change the face. -/
def eraseFrom : List Char → List Char
  | [] => []
  | c :: rest =>
      match _found : afterSequence? (c :: rest) with
      | some after => eraseFrom after
      | none => c :: eraseFrom rest
termination_by cs => cs.length
decreasing_by
  · exact length_afterSequence? _found
  · exact Nat.lt_succ_self rest.length

/-- A text without the terminal sequences that change the face. -/
def eraseSequences (s : String) : String := String.ofList (eraseFrom s.toList)

theorem joinFrom_spaces (n : Nat) (rest : List Char)
    : joinFrom true (List.replicate n ' ' ++ rest) = joinFrom true rest := by
  induction n with
  | zero => rfl
  | succ n ih => exact ih

/-- A text without spaces and newlines is kept. If it is not empty, spaces after it count again. -/
theorem joinFrom_append {word : List Char} (solid : ∀ c ∈ word, c ≠ ' ' ∧ c ≠ '\n')
    (skipping : Bool) (rest : List Char)
    : joinFrom skipping (word ++ rest) = word ++ joinFrom (skipping && word.isEmpty) rest := by
  induction word generalizing skipping with
  | nil => simp
  | cons c word ih =>
      obtain ⟨⟨blank, newline⟩, later⟩ := List.forall_mem_cons.mp solid
      have kept := ih later false
      cases skipping <;> simp_all [joinFrom]

theorem afterSequence?_sequence {code : List Char}
    (parameters : ∀ c ∈ code, (c.isDigit || c = ';') = true) (rest : List Char)
    : afterSequence? ('\x1b' :: '[' :: (code ++ 'm' :: rest)) = some rest := by
  have dropped : (code ++ 'm' :: rest).dropWhile (fun c => c.isDigit || c = ';') = 'm' :: rest := by
    rw [List.dropWhile_append_of_pos parameters]
    rfl
  rw [afterSequence?, dropped]
  rfl

theorem eraseFrom_of_some {cs after : List Char} (found : afterSequence? cs = some after)
    : eraseFrom cs = eraseFrom after := by
  cases cs with
  | nil => cases found
  | cons c rest =>
      rw [eraseFrom]
      split
      next other => rw [Option.some.inj (other.symm.trans found)]
      next none => cases none.symm.trans found

theorem eraseFrom_cons {c : Char} (plain : c ≠ '\x1b') (rest : List Char)
    : eraseFrom (c :: rest) = c :: eraseFrom rest := by
  have none : afterSequence? (c :: rest) = none := by
    unfold afterSequence?
    split
    next same => exact absurd (List.cons.inj same).1 plain
    next => rfl
  rw [eraseFrom]
  split
  next found => cases none.symm.trans found
  next => rfl

theorem eraseFrom_append {word : List Char} (plain : '\x1b' ∉ word) (rest : List Char)
    : eraseFrom (word ++ rest) = word ++ eraseFrom rest := by
  induction word with
  | nil => rfl
  | cons c word ih =>
      obtain ⟨first, later⟩ := not_or.mp (mt List.mem_cons.mpr plain)
      rw [List.cons_append, eraseFrom_cons (Ne.symm first), ih later, List.cons_append]

end Text

-----------------------------------------------------------------------------------------
-- Layouts
-----------------------------------------------------------------------------------------

namespace Piece

/-- A piece on one line: a newline is a space there. -/
def flatten : Piece → Piece
  | .text style content => .text style content
  | .blank => .blank
  | .newline _ => .blank

/-- Texts that are all shown as asked, and gaps between them. Each gap comes right after a text that
is not empty, so no two gaps are next to each other.
-/
inductive Spaced (shown : String → Prop) : List Piece → Prop
  | nil : Spaced shown []
  | text (style : Option Style) {content : String} {rest : List Piece}
    (here : shown content) (later : Spaced shown rest)
    : Spaced shown (.text style content :: rest)
  | gap (style : Option Style) {content : String} {piece : Piece} {rest : List Piece}
    (here : shown content) (filled : content ≠ "") (between : piece.flatten = .blank)
    (later : Spaced shown rest)
    : Spaced shown (.text style content :: piece :: rest)

variable {shown : String → Prop}

theorem Spaced.append {pieces others : List Piece} (first : Spaced shown pieces)
    (second : Spaced shown others)
    : Spaced shown (pieces ++ others) := by
  induction first with
  | nil => exact second
  | text style here _ ih => exact .text style here ih
  | gap style here filled between _ ih => exact .gap style here filled between ih

theorem flatten_flatten (piece : Piece) : piece.flatten.flatten = piece.flatten := by
  cases piece <;> rfl

theorem flatten_eq_text {piece : Piece} {style : Option Style} {content : String}
    (same : piece.flatten = .text style content)
    : piece = .text style content := by
  cases piece with
  | text other shown => exact same
  | blank => cases same
  | newline indent => cases same

/-- Pieces are spaced if they are so on one line. -/
theorem Spaced.of_flatten {pieces : List Piece} (flat : Spaced shown (pieces.map flatten))
    : Spaced shown pieces := by
  generalize line : pieces.map flatten = others at flat
  induction flat generalizing pieces with
  | nil => exact List.map_eq_nil_iff.mp line ▸ .nil
  | text style here _ ih =>
      obtain ⟨first, rest, rfl, same, line⟩ := List.map_eq_cons_iff.mp line
      rw [flatten_eq_text same]
      exact .text style here (ih line)
  | gap style here filled between _ ih =>
      obtain ⟨first, rest, rfl, same, line⟩ := List.map_eq_cons_iff.mp line
      obtain ⟨second, rest, rfl, next, line⟩ := List.map_eq_cons_iff.mp line
      rw [flatten_eq_text same]
      exact .gap style here filled ((flatten_flatten second).symm.trans (next ▸ between)) (ih line)

theorem toList_written_cons (piece : Piece) (rest : List Piece)
    : (written (piece :: rest)).toList = (written [piece]).toList ++ (written rest).toList := by
  rw [← String.toList_append, ← written_append]
  rfl

/-- A text that no gap can be mistaken for. -/
def Solid (content : String) : Prop := ∀ c ∈ content.toList, c ≠ ' ' ∧ c ≠ '\n'

instance : DecidablePred Solid :=
  fun content => List.decidableBAll (fun c => c ≠ ' ' ∧ c ≠ '\n') content.toList

theorem joinFrom_text {style : Option Style} {content : String} (solid : Solid content)
    (skipping : Bool) (rest : List Piece)
    : Text.joinFrom skipping (written (.text style content :: rest)).toList
      = content.toList
        ++ Text.joinFrom (skipping && content.toList.isEmpty) (written rest).toList := by
  rw [toList_written_cons, written_text, Text.joinFrom_append solid]

/-- A gap becomes one space. After a newline the spaces that indent the line are passed over. -/
theorem exists_joinFrom_gap {piece : Piece} (between : piece.flatten = .blank) (rest : List Piece)
    : ∃ skipping, Text.joinFrom false (written (piece :: rest)).toList
        = ' ' :: Text.joinFrom skipping (written rest).toList := by
  cases piece with
  | text style content => cases between
  | blank =>
      refine ⟨false, ?_⟩
      rw [toList_written_cons]
      rfl
  | newline indent =>
      refine ⟨true, ?_⟩
      have line : (written [.newline indent]).toList = '\n' :: List.replicate indent ' ' := by
        simp [written_newline]
      rw [toList_written_cons, line, List.cons_append, Text.joinFrom, Text.joinFrom_spaces]

/-- Spaced pieces of solid texts are joined to what they are on one line, by induction on the
pieces. Spaces to be passed over are never met, since a text that is not empty comes before the next
gap.
-/
theorem Spaced.joinFrom_written {pieces : List Piece} (spaced : Spaced Solid pieces)
    (skipping : Bool)
    : Text.joinFrom skipping (written pieces).toList = (written (pieces.map flatten)).toList := by
  induction spaced generalizing skipping with
  | nil => cases skipping <;> rfl
  | text style here _ ih =>
      rw [joinFrom_text here, ih, List.map_cons, flatten, toList_written_cons, written_text]
  | gap style here filled between _ ih =>
      have nonempty : (skipping && _) = false := Bool.and_eq_false_imp.mpr fun _ =>
        List.isEmpty_eq_false_iff.mpr (mt String.toList_eq_nil_iff.mp filled)
      obtain ⟨passing, joined⟩ := exists_joinFrom_gap between _
      rw [joinFrom_text here, nonempty, joined, ih, List.map_cons, List.map_cons, flatten, between,
        toList_written_cons, toList_written_cons .blank, written_text]
      rfl

end Piece

/-- The pieces of a text that a document is written as are those of one line, up to the gaps, by
induction on how it is written. Which of the gaps are newlines does not matter.
-/
theorem Doc.WrittenAs.exists_pieces {d : Doc} {text : String} (written : d.WrittenAs text)
    (flat : d.canBeFlat = true)
    : ∃ pieces, Piece.written pieces = text ∧ pieces.map Piece.flatten = d.flatPieces := by
  induction written with
  | empty => exact ⟨[], rfl, rfl⟩
  | text style content => exact ⟨[.text style content], Piece.written_text style content, rfl⟩
  | blank => exact ⟨[.blank], rfl, rfl⟩
  | newline indent => exact ⟨[.newline indent], Piece.written_newline indent, rfl⟩
  | hardline => cases flat
  | append _ _ ihf ihs =>
      obtain ⟨here, there⟩ := Bool.and_eq_true_iff.mp flat
      obtain ⟨left, rfl, first⟩ := ihf here
      obtain ⟨right, rfl, second⟩ := ihs there
      refine ⟨left ++ right, Piece.written_append left right, ?_⟩
      rw [List.map_append, first, second]
      rfl
  | nest _ _ ih => exact ih flat
  | group _ ih => exact ih flat

-----------------------------------------------------------------------------------------
-- Colours
-----------------------------------------------------------------------------------------

namespace Terminal

/-- A chunk that changes the face and writes nothing. -/
def IsSequence (chunk : String) : Prop :=
  ∃ code : String, chunk = sequence code
    ∧ code.toList.all (fun c => c.isDigit || c = ';') = true

/-- A terminal whose faces are switched by nothing but sequences. -/
structure WritesSequences (terminal : Terminal) : Prop where
  switching : ∀ face, ∀ chunk ∈ terminal.switchTo face, IsSequence chunk
  resetting : ∀ chunk ∈ terminal.reset, IsSequence chunk

theorem ansi_writesSequences : ansi.WritesSequences where
  switching face chunk member := by
    simp only [ansi, List.mem_append, List.mem_singleton, List.mem_ite_nil_right] at member
    rcases member with ((rfl | ⟨_, rfl⟩) | ⟨_, rfl⟩) | colored
    · exact ⟨"0", rfl, by decide⟩
    · exact ⟨"1", rfl, by decide⟩
    · exact ⟨"2", rfl, by decide⟩
    · cases chosen : face.color with
      | none =>
          rw [chosen] at colored
          cases colored
      | some color =>
          rw [chosen] at colored
          refine ⟨_, List.mem_singleton.mp colored, ?_⟩
          cases color <;> decide
  resetting := List.forall_mem_singleton.mpr ⟨"0", rfl, by decide⟩

end Terminal

/-- Chunks that only change the face are erased, by induction on them. -/
theorem Text.eraseFrom_sequences {chunks : List String}
    (each : ∀ chunk ∈ chunks, Terminal.IsSequence chunk) (rest : List Char)
    : eraseFrom ((String.join chunks).toList ++ rest) = eraseFrom rest := by
  induction chunks with
  | nil => rfl
  | cons chunk chunks ih =>
      obtain ⟨⟨code, rfl, parameters⟩, later⟩ := List.forall_mem_cons.mp each
      have spelled : (String.join (Terminal.sequence code :: chunks)).toList ++ rest
          = '\x1b' :: '[' :: (code.toList ++ 'm' :: ((String.join chunks).toList ++ rest)) := by
        simp [Terminal.sequence]
      have erased := afterSequence?_sequence (List.all_eq_true.mp parameters)
        ((String.join chunks).toList ++ rest)
      rw [spelled, eraseFrom_of_some erased, ih later]

namespace Call

theorem toList_join_cons (writes : Call → List String) (call : Call) (rest : List Call)
    : (String.join ((call :: rest).flatMap writes)).toList
      = (String.join (writes call)).toList ++ (String.join (rest.flatMap writes)).toList := by
  rw [List.flatMap_cons, String.join_append, String.toList_append]

/-- What one call shows on a terminal is erased to what it writes without styles. -/
theorem eraseFrom_shownOn {terminal : Terminal} (sequences : terminal.WritesSequences) {call : Call}
    (inert : '\x1b' ∉ (String.join call.plain).toList) (rest : List Char)
    : Text.eraseFrom ((String.join (call.shownOn terminal)).toList ++ rest)
      = (String.join call.plain).toList ++ Text.eraseFrom rest := by
  cases call with
  | write content => exact Text.eraseFrom_append inert rest
  | push style => exact Text.eraseFrom_sequences (sequences.switching style.face) rest
  | pop => exact Text.eraseFrom_sequences sequences.resetting rest

/-- What calls show on a terminal is erased to what they write without styles, by induction on the
calls.
-/
theorem eraseFrom_flatMap_shownOn {terminal : Terminal} (sequences : terminal.WritesSequences)
    {calls : List Call} (inert : '\x1b' ∉ (String.join (calls.flatMap plain)).toList)
    : Text.eraseFrom (String.join (calls.flatMap (shownOn terminal))).toList
      = (String.join (calls.flatMap plain)).toList := by
  induction calls with
  | nil => simp [Text.eraseFrom]
  | cons call rest ih =>
      rw [toList_join_cons, List.mem_append, not_or] at inert
      rw [toList_join_cons, toList_join_cons, eraseFrom_shownOn sequences inert.1, ih inert.2]

end Call

namespace Piece

theorem not_mem_gap {c : Char} (other : c ≠ ' ' ∧ c ≠ '\n') {piece : Piece}
    (between : piece.flatten = .blank)
    : c ∉ (written [piece]).toList := by
  cases piece with
  | text style content => cases between
  | blank => simpa [written, calls, Call.plain] using other.1
  | newline indent => simp [written_newline, other.1, other.2]

/-- A character that is in no text and no gap of spaced pieces is not in what they write, by
induction on the pieces.
-/
theorem Spaced.not_mem_written {c : Char} (other : c ≠ ' ' ∧ c ≠ '\n') {pieces : List Piece}
    (spaced : Spaced (fun content => c ∉ content.toList) pieces)
    : c ∉ (written pieces).toList := by
  induction spaced with
  | nil => exact List.not_mem_nil
  | text style here _ ih =>
      rw [toList_written_cons, written_text]
      exact List.not_mem_append here ih
  | gap style here _ between _ ih =>
      rw [toList_written_cons, written_text, toList_written_cons]
      exact List.not_mem_append here (List.not_mem_append (not_mem_gap other between) ih)

end Piece

-----------------------------------------------------------------------------------------
-- Terms
-----------------------------------------------------------------------------------------

namespace Term

theorem mem_namesAll {name : Symbol} {ts : List Term}
    : name ∈ namesAll ts ↔ ∃ t ∈ ts, name ∈ t.names := by
  induction ts with
  | nil => simp [namesAll]
  | cons t rest ih => simp [namesAll, ih]

/-- The texts in the document of a term that are not names. -/
def marks : List String := ["(", ")", ",", "\\", "."]

section

variable {shown : String → Prop} (marked : ∀ mark ∈ marks, shown mark)

include marked

theorem spaced_docRest {ts : List Term}
    (each : ∀ t ∈ ts, ∀ depth, Piece.Spaced shown (t.docAt depth).flatPieces) (depth : UInt8)
    : Piece.Spaced shown (docRest depth ts).flatPieces := by
  induction ts with
  | nil => exact .nil
  | cons t rest ih =>
      obtain ⟨first, later⟩ := List.forall_mem_cons.mp each
      have comma : Piece.Spaced shown [.text (some .punctuation) ",", .blank] :=
        .gap _ (marked _ (by decide)) (by decide) rfl .nil
      exact (comma.append (first depth)).append (ih later)

/-- The document of a term has its gaps after commas and dots, by induction on the term. -/
theorem spaced_docAt {t : Term} (named : ∀ x : Variable, x.name ∈ t.names → shown x.display)
    (depth : UInt8)
    : Piece.Spaced shown (t.docAt depth).flatPieces := by
  induction t generalizing depth with
  | var x => exact .text _ (named x List.mem_cons_self) .nil
  | app head args ih =>
      have headed : shown head := named ⟨head, 0⟩ List.mem_cons_self
      have below : ∀ arg ∈ args, ∀ depth, Piece.Spaced shown (arg.docAt depth).flatPieces := by
        intro arg member
        refine ih arg member fun x shownBelow => named x (List.mem_cons_of_mem head ?_)
        exact mem_namesAll.mpr ⟨arg, member, shownBelow⟩
      cases args with
      | nil => exact .text _ headed .nil
      | cons arg rest =>
          obtain ⟨first, later⟩ := List.forall_mem_cons.mp below
          have opened : Piece.Spaced shown
              [.text (some .constructor) head, .text (some (.paren depth)) "("] :=
            .text _ headed (.text _ (marked _ (by decide)) .nil)
          have closed : Piece.Spaced shown [.text (some (.paren depth)) ")"] :=
            .text _ (marked _ (by decide)) .nil
          have others := spaced_docRest marked later (depth + 1)
          exact (opened.append ((first (depth + 1)).append others)).append closed
  | abs binder body ih =>
      have opened : Piece.Spaced shown [.text (some .punctuation) "\\",
          .text (some .identifier) binder.display, .text (some .punctuation) ".", .blank] :=
        .text _ (marked _ (by decide)) (.text _ (named binder List.mem_cons_self)
          (.gap _ (marked _ (by decide)) (by decide) rfl .nil))
      exact opened.append (ih (fun x below => named x (List.mem_cons_of_mem _ below)) depth)

/-- The pieces of a text that a term is written as are spaced. -/
theorem exists_spaced {t : Term} (named : ∀ x : Variable, x.name ∈ t.names → shown x.display)
    {text : String} (written : t.doc.WrittenAs text)
    : ∃ pieces,
        Piece.written pieces = text
        ∧ Piece.written (pieces.map Piece.flatten) = t.flatText
        ∧ Piece.Spaced shown pieces := by
  have reads := t.reads_docAt 0
  obtain ⟨pieces, whole, line⟩ := written.exists_pieces reads.flat
  refine ⟨pieces, whole, ?_, .of_flatten ?_⟩
  · rw [line]
    exact reads.written
  · rw [line]
    exact spaced_docAt marked named 0

end

/-- No stamp has a control character or a space in it, so a displayed variable has only those of its
name.
-/
theorem not_mem_display {x : Variable} {c : Char} (low : c.toNat ≤ 0x20)
    (absent : c ∉ x.name.toList)
    : c ∉ x.display.toList := by
  have stamp : c ∉ (toString x.stamp).toList := by
    intro inside
    rw [Nat.toString_eq_repr, Nat.toList_repr] at inside
    have digit := Char.isDigit_iff_toNat.mp
      (Nat.isDigit_of_mem_toDigits (by decide) (by decide) inside)
    have zero : '0'.toNat = 0x30 := rfl
    omega
  have hash : c ≠ '#' := by
    rintro rfl
    exact absurd low (by decide)
  rw [Variable.display]
  split
  · exact absent
  · simp only [String.toList_append, List.mem_append, not_or]
    exact ⟨⟨absent, by simpa using hash⟩, stamp⟩

/-- A term whose names have no white space in them is joined to one line from any text that it is
written as.
-/
theorem joinLines_of_writtenAs {t : Term}
    (solid : ∀ name ∈ t.names, ∀ c ∈ name.toList, c.isWhitespace = false) {text : String}
    (written : t.doc.WrittenAs text)
    : Text.joinLines text = t.flatText := by
  have absent (c : Char) (blank : c.isWhitespace = true) : ∀ name ∈ t.names, c ∉ name.toList := by
    intro name member inside
    have white := solid name member c inside
    cases blank.symm.trans white
  have shown : ∀ x : Variable, x.name ∈ t.names → Piece.Solid x.display := by
    intro x member c inside
    constructor
    · rintro rfl
      exact not_mem_display (by decide) (absent ' ' (by decide) x.name member) inside
    · rintro rfl
      exact not_mem_display (by decide) (absent '\n' (by decide) x.name member) inside
  have marked : ∀ mark ∈ marks, Piece.Solid mark := by decide
  obtain ⟨pieces, rfl, line, spaced⟩ := exists_spaced marked shown written
  rw [Text.joinLines, spaced.joinFrom_written, line, String.ofList_toList]

/-- A term whose names have no escape character in them has none in any text that it is written as.
-/
theorem not_mem_of_writtenAs {t : Term} (plain : ∀ name ∈ t.names, '\x1b' ∉ name.toList)
    {text : String} (written : t.doc.WrittenAs text)
    : '\x1b' ∉ text.toList := by
  have shown : ∀ x : Variable, x.name ∈ t.names → '\x1b' ∉ x.display.toList :=
    fun x member => not_mem_display (by decide) (plain x.name member)
  have marked : ∀ mark ∈ marks, '\x1b' ∉ mark.toList := by decide
  obtain ⟨pieces, rfl, _, spaced⟩ := exists_spaced marked shown written
  exact spaced.not_mem_written (by decide)

/-- The width of a rendering changes nothing but white space, and colours add nothing but terminal
sequences. This is for every renderer that writes a line as a space or as a newline with its
indentation, whichever it chooses, and every terminal whose faces are switched by sequences. A term
whose names have no white space in them reads the same at any two widths, namely as it is written on
one line, once each newline and the spaces after it are replaced by a space. A term whose names have
no escape character in them is rendered with colours as without them at every width, once the
sequences that change the face are erased.
-/
theorem text_same {renderer : Renderer} (breaks : renderer.BreaksLines) {terminal : Terminal}
    (sequences : terminal.WritesSequences) (t : Term)
    : ((∀ name ∈ t.names, ∀ c ∈ name.toList, c.isWhitespace = false)
        → ∀ width other : Nat,
            Text.joinLines (renderer.text width t.doc) = t.flatText
            ∧ Text.joinLines (renderer.text width t.doc)
              = Text.joinLines (renderer.text other t.doc))
      ∧ ((∀ name ∈ t.names, '\x1b' ∉ name.toList)
        → ∀ width : Nat,
            Text.eraseSequences (renderer.textOn terminal width t.doc)
              = renderer.text width t.doc) := by
  refine ⟨fun solid width other => ?_, fun plain width => ?_⟩
  · have joined := joinLines_of_writtenAs solid (breaks width t.doc)
    exact ⟨joined, joined.trans (joinLines_of_writtenAs solid (breaks other t.doc)).symm⟩
  · have inert := not_mem_of_writtenAs plain (breaks width t.doc)
    have erased := Call.eraseFrom_flatMap_shownOn sequences inert
    rw [Text.eraseSequences, Renderer.textOn, erased, String.ofList_toList, Renderer.text]

/-- A term with two gaps, one of them inside a binder. -/
def successorAndCopy : Term :=
  .app "pair" [.abs ⟨"x", 0⟩ (.app "s" [.var ⟨"x", 0⟩]), .var ⟨"y", 3⟩]

/-- At width fourteen one of the two gaps is a newline. -/
theorem text_same_of_successorAndCopy
    : let t := successorAndCopy
      Renderer.standard.BreaksLines
      ∧ Terminal.ansi.WritesSequences
      ∧ (∀ name ∈ t.names, ∀ c ∈ name.toList, c.isWhitespace = false)
      ∧ (∀ name ∈ t.names, '\x1b' ∉ name.toList)
      ∧ t.doc.render 14 = "pair(\\x. s(x),\n  y#3)"
      ∧ t.flatText = "pair(\\x. s(x), y#3)"
      ∧ Text.joinLines (t.doc.render 14) = t.flatText
      ∧ Text.joinLines (t.doc.render 14) = Text.joinLines (t.doc.render 0)
      ∧ Text.eraseSequences (t.doc.renderAnsi 14) = t.doc.render 14 := by
  intro t
  have breaks := Renderer.standard_fillsLines.breaksLines
  have sequences := Terminal.ansi_writesSequences
  have unspaced : ∀ name ∈ t.names, name.toList.all (fun c => c.isWhitespace == false) = true := by
    decide
  have solid : ∀ name ∈ t.names, ∀ c ∈ name.toList, c.isWhitespace = false :=
    fun name member c inside => eq_of_beq (List.all_eq_true.mp (unspaced name member) c inside)
  have plain : ∀ name ∈ t.names, '\x1b' ∉ name.toList := by decide
  obtain ⟨joined, same⟩ := (text_same breaks sequences t).1 solid 14 0
  have erased := (text_same breaks sequences t).2 plain 14
  exact ⟨breaks, sequences, solid, plain, by decide, by decide, joined, same, erased⟩

end Term

end Backchain
