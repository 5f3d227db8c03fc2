import Backchain.Text.Emoji

/-! Emoji sequences: several characters that are drawn as one picture. Text is read from its end, so
a sequence is found by its last character and grows towards the start of the text.
-/

namespace Backchain.Text

/-- What stands before a picture that a joiner leads in: the joiner alone, a keycap, regional
indicators, or the tags of a flag with the number of its letters and digits.
-/
inductive JoinedTail where
  | picture
  | keycap
  | indicator
  | evenIndicators
  | oddIndicators
  | tags (letters digits : Nat)
deriving DecidableEq

/-- The end of a possible emoji sequence, as far as it has been read. -/
inductive EmojiTail where
  | emoji
  | skinTone
  | indicator
  | indicators
  | joined (tail : JoinedTail)
deriving DecidableEq

/-- What a character before a joined picture adds to its width, and the sequence that both end.
There is no answer if the character does not join. Tags hold up to six letters, or three digits
after up to four letters, and a flag has at least three of one kind.
-/
def JoinedTail.join? (after : JoinedTail) (c : Char) : Option (Int × EmojiTail) :=
  match after with
  | .picture =>
      if c = Text.keycap then some (0, .joined .keycap)
      else if isRegionalIndicator c then some (1, .joined .indicator)
      else if isSkinTone c then some (0, .skinTone)
      else if c = tagEnd then some (0, .joined (.tags 0 0))
      else if isEmoji c then some (0, .emoji)
      else none
  | .keycap => none
  | .indicator => if isRegionalIndicator c then some (-1, .joined .evenIndicators) else none
  | .evenIndicators =>
      if isRegionalIndicator c then some (3, .joined .oddIndicators)
      else if c = joiner then some (0, .joined .picture)
      else none
  | .oddIndicators =>
      if isRegionalIndicator c then some (-1, .joined .evenIndicators)
      else if c = joiner then some (0, .joined .picture)
      else none
  | .tags letters digits =>
      if isTagLetter c && digits = 0 && letters < 6 then
        some (0, .joined (.tags (letters + 1) 0))
      else if isTagDigit c && letters ≤ 4 && digits < 3 then
        some (0, .joined (.tags letters (digits + 1)))
      else if c = blackFlag && (digits = 3 || (digits = 0 && 3 ≤ letters)) then some (0, .emoji)
      else none

namespace EmojiTail

/-- The sequence that a character can end. -/
def ofChar? (c : Char) : Option EmojiTail :=
  if isRegionalIndicator c then some .indicator
  else if isSkinTone c then some .skinTone
  else if isEmoji c then some .emoji
  else none

/-- What a character before a sequence adds to its width, and the sequence that both end. There is
no answer if the character does not join.
-/
def join? (after : EmojiTail) (c : Char) : Option (Int × EmojiTail) :=
  match after with
  | .emoji => if c = joiner then some (0, .joined .picture) else none
  | .skinTone =>
      if isToneBase c then some (0, .emoji)
      else if c = joiner then some (0, .joined .picture)
      else none
  | .indicator => if isRegionalIndicator c then some (1, .indicators) else none
  | .indicators =>
      if isRegionalIndicator c then some (1, .indicators)
      else if c = joiner then some (0, .joined .picture)
      else none
  | .joined tail => tail.join? c

/-- Whether a selector before the end of a sequence leaves it open to the character before. -/
def keepsSelector : EmojiTail → Bool
  | .joined .picture => true
  | .joined .keycap => true
  | _ => false

end EmojiTail

end Backchain.Text
