import Backchain.Settings.Format
import Backchain.Text.Lines

/-! The standard format of settings. A document is a TOML table whose keys are settings and whose
values are integers. Tables, dotted keys and values of other types can never be settings, so a line
holds nothing but white space, a comment, or one key and one integer.
-/

namespace Backchain

/-- Why a document is not accepted as settings. -/
inductive SettingsError where
  | malformedLine (line : String)
  | unknownKey (key : String)
  | repeatedKey (key : String)
  | outOfRange (key : String) (value : Int)
deriving DecidableEq

/-- What a line of a document holds. -/
inductive SettingsLine where
  | blank
  | assignment (key : String) (value : Int)
deriving DecidableEq

namespace SettingsLine

-----------------------------------------------------------------------------------------
-- White space, comments
-----------------------------------------------------------------------------------------

/-- White space inside a line. -/
def isSpace (c : Char) : Bool := c = ' ' || c = '\t'

/-- Characters that may stand in comments and strings: all but the controls, and the tab. -/
def isAllowed (c : Char) : Bool := c = '\t' || (' ' ≤ c && c ≠ '\x7f')

/-- A line without the white space at its start. -/
def skipSpace (cs : List Char) : List Char := cs.dropWhile isSpace

/-- Whether the rest of a line holds nothing but white space and a comment. -/
def endsHere (cs : List Char) : Bool :=
  match skipSpace cs with
  | [] => true
  | '#' :: comment => comment.all isAllowed
  | _ => false

-----------------------------------------------------------------------------------------
-- Keys
-----------------------------------------------------------------------------------------

/-- Characters of a key without quotes. -/
def isBareKeyChar (c : Char) : Bool := c.isAlphanum || c = '_' || c = '-'

/-- The value of a digit in a base of at most sixteen. -/
def digitValue? (base : Nat) (c : Char) : Option Nat :=
  let value :=
    if '0' ≤ c ∧ c ≤ '9' then some (c.toNat - '0'.toNat)
    else if 'a' ≤ c ∧ c ≤ 'f' then some (c.toNat - 'a'.toNat + 10)
    else if 'A' ≤ c ∧ c ≤ 'F' then some (c.toNat - 'A'.toNat + 10)
    else none
  value.filter (fun d => d < base)

/-- The character whose code point is written in hexadecimal digits. -/
def charOfHex? (digits : List Char) : Option Char :=
  let code :=
    digits.foldlM (fun n c => (digitValue? 16 c).map (fun d => n * 16 + d)) 0
  code.bind (fun n => if n.isValidChar then some (Char.ofNat n) else none)

/-- The character that a one-letter escape stands for. -/
def escaped? : Char → Option Char
  | 'b' => some '\x08'
  | 't' => some '\t'
  | 'n' => some '\n'
  | 'f' => some '\x0c'
  | 'r' => some '\r'
  | 'e' => some '\x1b'
  | '"' => some '"'
  | '\\' => some '\\'
  | _ => none

/-- The rest of a key in double quotes, and what follows it. -/
def readQuoted? (key : List Char) : List Char → Option (List Char × List Char)
  | '"' :: rest => some (key.reverse, rest)
  | '\\' :: 'x' :: a :: b :: rest =>
      (charOfHex? [a, b]).bind (fun c => readQuoted? (c :: key) rest)
  | '\\' :: 'u' :: a :: b :: c :: d :: rest =>
      (charOfHex? [a, b, c, d]).bind (fun e => readQuoted? (e :: key) rest)
  | '\\' :: 'U' :: a :: b :: c :: d :: e :: f :: g :: h :: rest =>
      (charOfHex? [a, b, c, d, e, f, g, h]).bind (fun i => readQuoted? (i :: key) rest)
  | '\\' :: c :: rest => (escaped? c).bind (fun d => readQuoted? (d :: key) rest)
  | c :: rest => if isAllowed c then readQuoted? (c :: key) rest else none
  | [] => none

/-- The rest of a key in single quotes, and what follows it. -/
def readLiteral? (key : List Char) : List Char → Option (List Char × List Char)
  | '\x27' :: rest => some (key.reverse, rest)
  | c :: rest => if isAllowed c then readLiteral? (c :: key) rest else none
  | [] => none

/-- The key at the start of a line, and what follows it. -/
def readKey? : List Char → Option (List Char × List Char)
  | '"' :: rest => readQuoted? [] rest
  | '\x27' :: rest => readLiteral? [] rest
  | cs =>
      let key := cs.takeWhile isBareKeyChar
      if key.isEmpty then none else some (key, cs.dropWhile isBareKeyChar)

-----------------------------------------------------------------------------------------
-- Integers
-----------------------------------------------------------------------------------------

/-- Reads digits onto a number. A single underscore may stand between two digits; the flag tells
whether a digit comes right before.
-/
def readDigits? (base n : Nat) (afterDigit : Bool) : List Char → Option Nat
  | [] => if afterDigit then some n else none
  | '_' :: rest => if afterDigit then readDigits? base n false rest else none
  | c :: rest => (digitValue? base c).bind (fun d => readDigits? base (n * base + d) true rest)

/-- Reads a decimal number. Only zero itself starts with the digit zero. -/
def readDecimal? : List Char → Option Nat
  | ['0'] => some 0
  | '0' :: _ => none
  | cs => readDigits? 10 0 false cs

/-- Reads an integer: decimal with a sign before it or not, or in base sixteen, eight or two. -/
def readInteger? : List Char → Option Int
  | '0' :: 'x' :: digits => (readDigits? 16 0 false digits).map Int.ofNat
  | '0' :: 'o' :: digits => (readDigits? 8 0 false digits).map Int.ofNat
  | '0' :: 'b' :: digits => (readDigits? 2 0 false digits).map Int.ofNat
  | '+' :: digits => (readDecimal? digits).map Int.ofNat
  | '-' :: digits => (readDecimal? digits).map (fun n => -Int.ofNat n)
  | digits => (readDecimal? digits).map Int.ofNat

-----------------------------------------------------------------------------------------
-- Lines
-----------------------------------------------------------------------------------------

/-- Characters of a value: it ends at white space or at a comment. -/
def isValueChar (c : Char) : Bool := !isSpace c && c ≠ '#'

/-- Reads the value of a key up to the end of the line. -/
def readValue? (key cs : List Char) : Option SettingsLine :=
  if endsHere (cs.dropWhile isValueChar) then
    (readInteger? (cs.takeWhile isValueChar)).map (.assignment (String.ofList key))
  else none

/-- Reads a line. -/
def read? (line : List Char) : Option SettingsLine :=
  if endsHere line then some .blank
  else
    match readKey? (skipSpace line) with
    | none => none
    | some (key, rest) =>
        match skipSpace rest with
        | '=' :: value => readValue? key (skipSpace value)
        | _ => none

end SettingsLine

namespace TableFormat

/-- A document without the mark that may stand before its first character. -/
def skipMark : List Char → List Char
  | '\ufeff' :: rest => rest
  | cs => cs

/-- The entries of the lines of a document. -/
def entries : List (List Char) → Except SettingsError (List (String × Int))
  | [] => .ok []
  | line :: rest =>
      match SettingsLine.read? line with
      | none => .error (.malformedLine (String.ofList line))
      | some .blank => entries rest
      | some (.assignment key value) => (entries rest).map (fun table => (key, value) :: table)

/-- The first key of a table that comes again. -/
def repeatedKey? : List (String × Int) → Option String
  | [] => none
  | (key, _) :: rest =>
      if rest.any (fun entry => entry.1 = key) then some key else repeatedKey? rest

/-- A table whose keys are all different. -/
def checkKeys (table : List (String × Int)) : Except SettingsError (List (String × Int)) :=
  match repeatedKey? table with
  | some key => .error (.repeatedKey key)
  | none => .ok table

/-- The line that assigns a value to a key. -/
def assignmentLine (entry : String × Int) : String := entry.1 ++ " = " ++ toString entry.2

/-- Tables of integers, one assignment on each line. -/
def standard : TableFormat Int SettingsError where
  parse document :=
    (entries (Text.linesFrom [] (skipMark document.toList))).bind checkKeys
  print table := .ok (Text.unlines (table.map assignmentLine))

end TableFormat

namespace Overrides

/-- The largest number that a setting can have. -/
def maxValue : Nat := UInt64.size - 1

/-- Sets a key that has not been set before to a value in range. -/
def assign (overrides : Overrides) (entry : String × Int) : Except SettingsError Overrides :=
  match SettingsKey.ofName? entry.1 with
  | none => .error (.unknownKey entry.1)
  | some key =>
      if (overrides.get key).isSome then .error (.repeatedKey entry.1)
      else if entry.2 < 0 ∨ (maxValue : Int) < entry.2 then .error (.outOfRange entry.1 entry.2)
      else .ok (overrides.set key (some entry.2.toNat))

end Overrides

/-- The entries of a table replace the defaults. A setting that has no value has no entry. -/
def SettingsCodec.standard : SettingsCodec Int SettingsError where
  decode table :=
    (table.foldlM Overrides.assign default).map
      (fun overrides => ({} : Settings).override overrides)
  encode settings :=
    SettingsKey.all.filterMap
      (fun key => (settings.get key).map (fun (n : Nat) => (key.name, (n : Int))))

/-- The format in which settings are kept. -/
def SettingsFormat.standard : SettingsFormat SettingsError :=
  .ofTables TableFormat.standard SettingsCodec.standard

end Backchain
