import Backchain.Text.CharWidth
import Backchain.Text.Emoji

/-! Ligatures: letters that are drawn as one shape with the letters before them. Text is read from
its end, so a ligature is found by its last letter and grows towards the start of the text.
-/

namespace Backchain.Text

-----------------------------------------------------------------------------------------
-- Classes of letters
-----------------------------------------------------------------------------------------

/-- The ranges of the forms of the Arabic letter alef that end a ligature with lam. -/
def alefRanges : CodeRanges :=
  [
    (0x0622, 0x0623), (0x0625, 0x0625), (0x0627, 0x0627), (0x0671, 0x0673),
    (0x0675, 0x0675), (0x0773, 0x0774), (0x0870, 0x0882)
  ]

/-- The ranges of the forms of the Arabic letter lam. -/
def lamRanges : CodeRanges :=
  [
    (0x0644, 0x0644), (0x06B5, 0x06B8), (0x076A, 0x076A), (0x08A6, 0x08A6),
    (0x08C7, 0x08C7)
  ]

/-- The ranges of the Khmer letters that have a form below another letter. -/
def subscriptRanges : CodeRanges :=
  [
    (0x1780, 0x1782), (0x1784, 0x1787), (0x1789, 0x178C), (0x178E, 0x1793),
    (0x1795, 0x1798), (0x179B, 0x179D), (0x17A0, 0x17A0), (0x17A2, 0x17A2),
    (0x17A7, 0x17A7), (0x17AB, 0x17AC), (0x17AF, 0x17AF)
  ]

/-- The ranges of the Tifinagh consonants. -/
def tifinaghRanges : CodeRanges := [(0x2D31, 0x2D65), (0x2D6F, 0x2D6F)]

/-- The ranges of the Lisu tone letters that follow another tone letter. -/
def secondToneRanges : CodeRanges := [(0xA4FC, 0xA4FD)]

/-- The ranges of the Lisu tone letters that another tone letter can follow. -/
def firstToneRanges : CodeRanges := [(0xA4F8, 0xA4FB)]

/-- The ranges of the characters that never part the letters of a ligature. -/
def ligatureTransparentRanges : CodeRanges :=
  [
    (0x034F, 0x034F), (0x17B4, 0x17B5), (0x180B, 0x180D), (0x180F, 0x180F),
    (0x200D, 0x200D), (0xFE00, 0xFE0F), (0xE0100, 0xE01EF)
  ]

/-- The ranges of characters without a column that part the letters of an Arabic word. -/
def partingRanges : CodeRanges :=
  [
    (0x0605, 0x0605), (0x0890, 0x0891), (0x08E2, 0x08E2), (0x09BE, 0x09BE),
    (0x09D7, 0x09D7), (0x0B3E, 0x0B3E), (0x0B57, 0x0B57), (0x0BBE, 0x0BBE),
    (0x0BD7, 0x0BD7), (0x0CC0, 0x0CC0), (0x0CC2, 0x0CC2), (0x0CC7, 0x0CC8),
    (0x0CCA, 0x0CCB), (0x0CD5, 0x0CD6), (0x0D3E, 0x0D3E), (0x0D4E, 0x0D4E),
    (0x0D57, 0x0D57), (0x0DCF, 0x0DCF), (0x0DDF, 0x0DDF), (0x1160, 0x11FF),
    (0x1715, 0x1715), (0x1734, 0x1734), (0x180E, 0x180E), (0x1B35, 0x1B35),
    (0x1B3B, 0x1B3B), (0x1B3D, 0x1B3D), (0x1B43, 0x1B44), (0x1BAA, 0x1BAA),
    (0x1BF2, 0x1BF3), (0x200C, 0x200D), (0x2065, 0x2069), (0x302E, 0x302F),
    (0x3164, 0x3164), (0xA8FA, 0xA8FA), (0xA953, 0xA953), (0xA9C0, 0xA9C0),
    (0xD7B0, 0xD7C6), (0xD7CB, 0xD7FB), (0xFFA0, 0xFFA0), (0xFFF0, 0xFFF8),
    (0x111C0, 0x111C0), (0x111C2, 0x111C3), (0x11235, 0x11235), (0x1133E, 0x1133E),
    (0x1134D, 0x1134D), (0x11357, 0x11357), (0x113B8, 0x113B8), (0x113C2, 0x113C2),
    (0x113C5, 0x113C5), (0x113C7, 0x113C9), (0x113CF, 0x113CF), (0x113D1, 0x113D1),
    (0x114B0, 0x114B0), (0x114BD, 0x114BD), (0x115AF, 0x115AF), (0x116B6, 0x116B6),
    (0x11930, 0x11930), (0x1193D, 0x1193D), (0x1193F, 0x1193F), (0x11941, 0x11941),
    (0x11A84, 0x11A89), (0x11D46, 0x11D46), (0x11F02, 0x11F02), (0x11F41, 0x11F41),
    (0x16FF0, 0x16FF1), (0x1D165, 0x1D166), (0x1D16D, 0x1D172), (0xE0000, 0xE0000),
    (0xE0002, 0xE001F), (0xE0080, 0xE00FF), (0xE01F0, 0xE0FFF)
  ]

/-- Whether a character takes no column and leaves the letters beside it joined. -/
def isJoiningTransparent (c : Char) : Bool := charWidth c = 0 && !partingRanges.contains c

-----------------------------------------------------------------------------------------
-- Tails
-----------------------------------------------------------------------------------------

/-- The end of a possible ligature, as far as it has been read. -/
inductive LigatureTail where
  | alef
  | lamed
  | subscript
  | ya
  | yaVowel
  | tifinagh
  | tifinaghJoined
  | secondTone
  | orkhonI
deriving DecidableEq

/-- A ligature as far as it has been read, and whether a joiner stands before it. -/
structure Ligature where
  tail : LigatureTail
  joined : Bool := false
deriving DecidableEq

namespace Ligature

/-- The ligature that a character can end. -/
def ofChar? (c : Char) : Option Ligature :=
  if alefRanges.contains c then some { tail := .alef }
  else if c = '\u05dc' then some { tail := .lamed }
  else if subscriptRanges.contains c then some { tail := .subscript }
  else if c = '\u1a10' then some { tail := .ya }
  else if tifinaghRanges.contains c then some { tail := .tifinagh }
  else if secondToneRanges.contains c then some { tail := .secondTone }
  else if c = Char.ofNat 0x10C03 then some { tail := .orkhonI }
  else none

/-- What a character before a ligature adds to its width, and the ligature that both end, if more
can come. There is no answer if the character does not join.
-/
def join? (after : Ligature) (c : Char) : Option (Int × Option Ligature) :=
  if c = joiner then some (0, some { after with joined := true })
  else if ligatureTransparentRanges.contains c then some (0, some after)
  else
    match after.tail with
    | .alef =>
        if after.joined then none
        else if lamRanges.contains c then some (0, none)
        else if isJoiningTransparent c then some (0, some after)
        else none
    | .lamed => if after.joined && c = '\u05d0' then some (0, none) else none
    | .subscript => if c = '\u17d2' then some (-1, none) else none
    | .ya => if after.joined && c = '\u1a17' then some (0, some { tail := .yaVowel }) else none
    | .yaVowel => if c = '\u1a15' then some (0, none) else none
    | .tifinagh =>
        if c = '\u2d7f' then some (1, some { tail := .tifinaghJoined })
        else if after.joined && tifinaghRanges.contains c then some (0, none)
        else none
    | .tifinaghJoined => if tifinaghRanges.contains c then some (-1, none) else none
    | .secondTone => if firstToneRanges.contains c then some (0, none) else none
    | .orkhonI =>
        if after.joined && c = Char.ofNat 0x10C32 then some (0, none) else none

end Ligature

-----------------------------------------------------------------------------------------
-- Compound vowel signs
-----------------------------------------------------------------------------------------

/-- The end of a compound vowel sign of Kirat Rai, as far as it has been read. Unlike the letters of
a ligature, its parts join only when they stand side by side.
-/
inductive VowelTail where
  | e
  | ai
deriving DecidableEq

namespace VowelTail

/-- The compound sign that a character can end. -/
def ofChar? (c : Char) : Option VowelTail :=
  if c = Char.ofNat 0x16D67 then some .e
  else if c = Char.ofNat 0x16D68 then some .ai
  else none

/-- What a character before a compound sign adds to its width, and the sign that both end, if more
can come. There is no answer if the character does not join.
-/
def join? (after : VowelTail) (c : Char) : Option (Int × Option VowelTail) :=
  match after with
  | .e =>
      if c = Char.ofNat 0x16D63 then some (0, none)
      else if c = Char.ofNat 0x16D67 then some (0, some .ai)
      else if c = Char.ofNat 0x16D68 then some (1, some .e)
      else if c = Char.ofNat 0x16D69 then some (0, none)
      else none
  | .ai => if c = Char.ofNat 0x16D63 then some (0, none) else none

end VowelTail

end Backchain.Text
