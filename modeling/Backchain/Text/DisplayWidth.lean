import Backchain.Text.EmojiSequence
import Backchain.Text.Ligature

/-! The number of columns that text takes on a terminal. Text is read from its end: what a character
adds depends on the characters after it, with which it may be drawn as one.
-/

namespace Backchain.Text

/-- What the text after a place is to the character at it. -/
inductive Follower where
  | plain
  | lineFeed
  | emoji (tail : EmojiTail)
  | vowel (tail : VowelTail)
  | ligature (tail : Ligature)
deriving DecidableEq

/-- The text after a place, with the forms that selectors right after the place choose: the emoji
form, the text form, or the form centred in two columns.
-/
structure Following where
  follower : Follower := .plain
  emojiForm : Bool := false
  textForm : Bool := false
  centredForm : Bool := false
deriving DecidableEq

namespace Following

/-- Text with which nothing joins. -/
def plain : Following := {}

/-- Text that ends a ligature, if there is one. -/
def ofLigature : Option Ligature → Following
  | some tail => { follower := .ligature tail }
  | none => plain

/-- Text that ends a compound vowel sign, if there is one. -/
def ofVowel : Option VowelTail → Following
  | some tail => { follower := .vowel tail }
  | none => plain

/-- What a character is to the one before it when it joins with nothing. -/
def ofChar (c : Char) : Following :=
  match EmojiTail.ofChar? c with
  | some tail => { follower := .emoji tail }
  | none =>
      match VowelTail.ofChar? c with
      | some tail => { follower := .vowel tail }
      | none => ofLigature (Ligature.ofChar? c)

/-- What a selector keeps of the text after it. Only a ligature is read through selectors. -/
def throughSelector (after : Following) : Following :=
  match after.follower with
  | .ligature _ => after
  | _ => plain

/-- The text with the selector of the emoji form before it. -/
def selectEmoji (after : Following) : Following :=
  match after.follower with
  | .emoji tail =>
      { follower := if tail.keepsSelector then .emoji tail else .plain, emojiForm := true }
  | _ => { after.throughSelector with emojiForm := true }

/-- The text with the selector of the text form before it. -/
def selectText (after : Following) : Following := { after.throughSelector with textForm := true }

/-- The text with the selector of the centred form before it. -/
def selectCentred (after : Following) : Following :=
  { after.throughSelector with centredForm := true }

/-- The text whose selector of the emoji form chooses nothing. -/
def dropEmoji (after : Following) : Following := { after.throughSelector with emojiForm := false }

/-- The text whose other selectors choose nothing. -/
def dropForms (after : Following) : Following :=
  { after with textForm := false, centredForm := false }

end Following

/-- The selector of the centred form of the character before it. -/
def centredSelector : Char := '\ufe01'

/-- Whether a character is a quotation mark that has a centred form. -/
def hasCentredForm (c : Char) : Bool :=
  c = '\u2018' || c = '\u2019' || c = '\u201c' || c = '\u201d'

/-- What a character adds to the text after it by joining, and what both are to the character
before. There is no answer if the character does not join.
-/
def Follower.join? (after : Follower) (c : Char) : Option (Int × Following) :=
  match after with
  | .plain => none
  | .lineFeed => none
  | .emoji tail =>
      (tail.join? c).map (fun joined => (joined.1, { follower := .emoji joined.2 }))
  | .vowel tail => (tail.join? c).map (fun joined => (joined.1, Following.ofVowel joined.2))
  | .ligature tail =>
      (tail.join? c).map (fun joined => (joined.1, Following.ofLigature joined.2))

/-- What an ASCII or control character adds. A line feed and the carriage return before it count as
one.
-/
def addControl (c : Char) (after : Following) : Int × Following :=
  if c = '\n' then (1, { follower := .lineFeed })
  else if c = '\r' && after.follower = .lineFeed then (0, .plain)
  else (1, .plain)

/-- What a character that no selector concerns adds, by joining or by itself. -/
def addJoining (c : Char) (after : Following) : Int × Following :=
  match after.follower.join? c with
  | some joined => joined
  | none => (charWidth c, Following.ofChar c)

/-- What a character after which no emoji form is selected adds. -/
def addUnselected (c : Char) (after : Following) : Int × Following :=
  if c.toNat ≤ 0xA0 then addControl c after
  else if c = emojiSelector then (0, after.selectEmoji)
  else if c = textSelector then (0, after.selectText)
  else if c = centredSelector then (0, after.selectCentred)
  else if after.textForm && hasNarrowForm c then (1, .plain)
  else if after.centredForm && hasCentredForm c then (2, .plain)
  else addJoining c after.dropForms

/-- What a character adds to the columns of the text after it, and what both are to the character
before. An emoji form takes two columns unless it joins the picture after it.
-/
def addChar (c : Char) (after : Following) : Int × Following :=
  if after.emojiForm then
    if hasEmojiForm c then
      match after.follower with
      | .emoji _ => (0, { follower := .emoji .emoji })
      | _ => (2, { follower := .emoji .emoji })
    else addUnselected c after.dropEmoji
  else addUnselected c after

/-- The columns of text, and what it is to a character before it. -/
def measure : List Char → Int × Following
  | [] => (0, .plain)
  | c :: rest =>
      let after := measure rest
      let added := addChar c after.2
      (added.1 + after.1, added.2)

/-- The columns that a text takes: one for each character of ASCII text, controls included, else
what the characters take together. ASCII text is that with one byte for each character.
-/
def displayWidth (s : String) : Nat :=
  if s.utf8ByteSize = s.length then s.length else (measure s.toList).1.toNat

/-- ASCII text has one byte for each character, by induction on the text. -/
theorem utf8ByteSize_of_ascii {s : String} (h : ∀ c ∈ s.toList, c.toNat < 0x80)
    : s.utf8ByteSize = s.length := by
  induction s using String.push_induction with
  | empty => rfl
  | push before last ih =>
      simp only [String.toList_push, List.mem_append, List.mem_singleton] at h
      have small : last.utf8Size = 1 := by
        have bound := h last (Or.inr rfl)
        refine Char.utf8Size_eq_one_iff.mpr (UInt32.le_iff_toNat_le.mpr ?_)
        simp only [Char.toNat] at bound
        exact Nat.le_of_lt_succ bound
      rw [String.utf8ByteSize_push, String.length_push, small,
        ih fun c hm => h c (Or.inl hm)]

/-- ASCII text takes one column for each character. -/
theorem displayWidth_of_ascii {s : String} (h : ∀ c ∈ s.toList, c.toNat < 0x80)
    : displayWidth s = s.length := by
  rw [displayWidth, if_pos (utf8ByteSize_of_ascii h)]

end Backchain.Text
