/-! Styles of printed text and the terminals that show them. -/

namespace Backchain

/-- The roles that printed text can have. Parentheses carry their nesting depth, which starts over
after 255, so that a matching pair has one colour.
-/
inductive Style where
  | punctuation
  | paren (depth : UInt8)
  | keyword
  | identifier
  | constructor
  | rule
deriving DecidableEq

/-- The foreground colours of a terminal. -/
inductive Color where
  | red
  | green
  | yellow
  | blue
  | magenta
  | cyan
  | white
deriving DecidableEq

/-- How a style looks on a terminal. -/
structure Face where
  bold : Bool := false
  dimmed : Bool := false
  color : Option Color := none
deriving DecidableEq

namespace Color

/-- The digit that selects a colour. -/
def digit : Color → Char
  | .red => '1'
  | .green => '2'
  | .yellow => '3'
  | .blue => '4'
  | .magenta => '5'
  | .cyan => '6'
  | .white => '7'

end Color

namespace Style

/-- The colours of nested parentheses, taken in turn. -/
def parenColor (depth : UInt8) : Color :=
  match depth.toNat % 6 with
  | 0 => .blue
  | 1 => .green
  | 2 => .white
  | 3 => .yellow
  | 4 => .red
  | _ => .magenta

/-- The face of each style. -/
def face : Style → Face
  | .punctuation => { dimmed := true }
  | .paren depth => { dimmed := true, color := some (parenColor depth) }
  | .keyword => { bold := true, color := some .cyan }
  | .identifier => { bold := true, color := some .green }
  | .constructor => { color := some .magenta }
  | .rule => { bold := true, color := some .yellow }

end Style

/-- A terminal that shows faces: the texts that switch from any face to a given one, and those that
return to the plain face.
-/
structure Terminal where
  switchTo : Face → List String
  reset : List String

namespace Terminal

/-- A terminal sequence that changes the face of what follows. -/
def sequence (code : String) : String := "\x1b[" ++ code ++ "m"

/-- The terminal whose faces are switched by sequences. It returns to the plain face before it
switches to another one.
-/
def ansi : Terminal where
  switchTo face :=
    [sequence "0"]
      ++ (if face.bold then [sequence "1"] else [])
      ++ (if face.dimmed then [sequence "2"] else [])
      ++ (match face.color with
          | some color => [sequence ("3" ++ color.digit.toString)]
          | none => [])
  reset := [sequence "0"]

end Terminal

end Backchain
