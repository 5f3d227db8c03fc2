import Mathlib.Data.List.Forall2
import Mathlib.Data.List.TakeWhile
import Backchain.Settings.Reader

/-! Lines that assign a value to a key. A key can be spelled in many ways: bare, between single
quotes, or between double quotes with any of its characters escaped. An integer can be spelled in
several bases, in decimal digits among them. However both are spelled, a line with an equals sign
between them assigns the integer to the key.
-/

namespace Backchain

namespace SettingsLine

-----------------------------------------------------------------------------------------
-- Spelling of keys
-----------------------------------------------------------------------------------------

/-- The ways to write a character between double quotes: as itself, by a letter, or by its code
point in two, four or eight digits.
-/
inductive CharSpelling : List Char → Char → Prop
  | itself {c : Char} (allowed : isAllowed c = true) (quote : c ≠ '"') (escape : c ≠ '\\')
    : CharSpelling [c] c
  | letter {letter c : Char} (known : escaped? letter = some c)
    : CharSpelling ['\\', letter] c
  | short {a b c : Char} (known : charOfHex? [a, b] = some c)
    : CharSpelling ['\\', 'x', a, b] c
  | code {a b d e c : Char} (known : charOfHex? [a, b, d, e] = some c)
    : CharSpelling ['\\', 'u', a, b, d, e] c
  | long {a b d e f g h i c : Char} (known : charOfHex? [a, b, d, e, f, g, h, i] = some c)
    : CharSpelling ['\\', 'U', a, b, d, e, f, g, h, i] c

/-- The ways to write a key. -/
inductive Spelling : List Char → List Char → Prop
  | bare {key : List Char} (nonempty : key ≠ []) (plain : ∀ c ∈ key, isBareKeyChar c = true)
    : Spelling key key
  | literal {key : List Char} (plain : ∀ c ∈ key, (isAllowed c && c ≠ '\x27') = true)
    : Spelling ('\x27' :: (key ++ ['\x27'])) key
  | quoted {texts : List (List Char)} {key : List Char} (each : List.Forall₂ CharSpelling texts key)
    : Spelling ('"' :: (texts.flatten ++ ['"'])) key

theorem readQuoted?_letter {letter c : Char} (known : escaped? letter = some c)
    (key rest : List Char)
    : readQuoted? key ('\\' :: letter :: rest) = readQuoted? (c :: key) rest := by
  unfold escaped? at known
  split at known <;> cases known <;> simp [readQuoted?, escaped?]

/-- A spelled character is read as the one it stands for. -/
theorem readQuoted?_char {text : List Char} {c : Char} (spelled : CharSpelling text c)
    (key rest : List Char)
    : readQuoted? key (text ++ rest) = readQuoted? (c :: key) rest := by
  cases spelled with
  | itself allowed quote escape => simp [readQuoted?, allowed, escape]
  | letter known => exact readQuoted?_letter known key rest
  | short known => simp [readQuoted?, known]
  | code known => simp [readQuoted?, known]
  | long known => simp [readQuoted?, known]

/-- Spelled characters are read up to the closing quote, by induction on them. -/
theorem readQuoted?_flatten {texts : List (List Char)} {key : List Char}
    (each : List.Forall₂ CharSpelling texts key) (before rest : List Char)
    : readQuoted? before (texts.flatten ++ '"' :: rest) = some (before.reverse ++ key, rest) := by
  induction each generalizing before with
  | nil => simp [readQuoted?]
  | cons first _ ih =>
      rw [List.flatten_cons, List.append_assoc, readQuoted?_char first, ih]
      simp

theorem readLiteral?_append {key : List Char}
    (plain : ∀ c ∈ key, (isAllowed c && c ≠ '\x27') = true) (before rest : List Char)
    : readLiteral? before (key ++ '\x27' :: rest) = some (before.reverse ++ key, rest) := by
  induction key generalizing before with
  | nil => simp [readLiteral?]
  | cons c key ih =>
      obtain ⟨here, later⟩ := List.forall_mem_cons.mp plain
      obtain ⟨allowed, quote⟩ := Bool.and_eq_true_iff.mp here
      have inside : c ≠ '\x27' := of_decide_eq_true quote
      simp [readLiteral?, allowed, ih later]

/-- A character whose code point is given in digits is read from nothing but digits, by induction on
them.
-/
theorem isSome_digitValue? {digits : List Char} {n code : Nat}
    (read : digits.foldlM (fun n c => (digitValue? 16 c).map (fun d => n * 16 + d)) n = some code)
    : ∀ d ∈ digits, (digitValue? 16 d).isSome = true := by
  induction digits generalizing n with
  | nil => exact fun _ member => nomatch member
  | cons d digits ih =>
      rw [List.foldlM_cons] at read
      cases value : digitValue? 16 d with
      | none =>
          rw [value] at read
          cases read
      | some m =>
          rw [value] at read
          exact List.forall_mem_cons.mpr ⟨by rw [value]; rfl, ih read⟩

theorem newline_not_mem_of_charOfHex? {digits : List Char} {c : Char}
    (known : charOfHex? digits = some c)
    : '\n' ∉ digits := by
  obtain ⟨code, read, -⟩ := Option.bind_eq_some_iff.mp known
  intro member
  cases isSome_digitValue? read '\n' member

theorem CharSpelling.newline_not_mem {text : List Char} {c : Char} (spelled : CharSpelling text c)
    : '\n' ∉ text := by
  cases spelled with
  | itself allowed quote escape =>
      rw [List.mem_singleton]
      rintro rfl
      cases allowed
  | letter known =>
      simp only [List.mem_cons, List.not_mem_nil, or_false, not_or]
      refine ⟨by decide, ?_⟩
      rintro rfl
      cases known
  | short known => simpa using newline_not_mem_of_charOfHex? known
  | code known => simpa using newline_not_mem_of_charOfHex? known
  | long known => simpa using newline_not_mem_of_charOfHex? known

theorem newline_not_mem_flatten {texts : List (List Char)} {key : List Char}
    (each : List.Forall₂ CharSpelling texts key)
    : '\n' ∉ texts.flatten := by
  induction each with
  | nil => exact List.not_mem_nil
  | cons first _ ih => exact List.not_mem_append first.newline_not_mem ih

/-- A spelled key is on one line. -/
theorem Spelling.newline_not_mem {spelling key : List Char} (spelled : Spelling spelling key)
    : '\n' ∉ spelling := by
  cases spelled with
  | bare nonempty plain =>
      intro member
      cases plain '\n' member
  | literal plain =>
      have inside : '\n' ∉ key := by
        intro member
        cases plain '\n' member
      simpa using inside
  | quoted each =>
      have inside := newline_not_mem_flatten each
      simpa only [List.mem_cons, List.mem_append, List.not_mem_nil, or_false, not_or] using
        ⟨by decide, inside, by decide⟩

theorem ne_of_isBareKeyChar {c d : Char} (bare : isBareKeyChar c = true)
    (other : isBareKeyChar d = false)
    : c ≠ d := by
  rintro rfl
  cases bare.symm.trans other

theorem isValueChar_of_isBareKeyChar {c : Char} (bare : isBareKeyChar c = true)
    : isValueChar c = true := by
  have blank : c ≠ ' ' := ne_of_isBareKeyChar bare (by decide)
  have tab : c ≠ '\t' := ne_of_isBareKeyChar bare (by decide)
  have hash : c ≠ '#' := ne_of_isBareKeyChar bare (by decide)
  simp [isValueChar, isSpace, blank, tab, hash]

/-- A spelled key is read as the key, if what follows cannot be a part of it. -/
theorem readKey?_spelling {spelling key : List Char} (spelled : Spelling spelling key) {c : Char}
    (stops : isBareKeyChar c = false) (rest : List Char)
    : readKey? (spelling ++ c :: rest) = some (key, c :: rest) := by
  cases spelled with
  | bare nonempty plain =>
      obtain ⟨first, tail, rfl⟩ := List.exists_cons_of_ne_nil nonempty
      have bare := plain first List.mem_cons_self
      have taken : ((first :: tail) ++ c :: rest).takeWhile isBareKeyChar = first :: tail := by
        rw [List.takeWhile_append_of_pos plain, List.takeWhile_cons_of_neg (by simp [stops]),
          List.append_nil]
      have dropped : ((first :: tail) ++ c :: rest).dropWhile isBareKeyChar = c :: rest := by
        rw [List.dropWhile_append_of_pos plain, List.dropWhile_cons_of_neg (by simp [stops])]
      rw [readKey?.eq_def]
      split
      next same => exact absurd (List.cons.inj same).1 (ne_of_isBareKeyChar bare (by decide))
      next same => exact absurd (List.cons.inj same).1 (ne_of_isBareKeyChar bare (by decide))
      next => rw [taken, dropped]; rfl
  | literal plain =>
      rw [List.cons_append, List.append_assoc, readKey?]
      exact readLiteral?_append plain [] (c :: rest)
  | quoted each =>
      rw [List.cons_append, List.append_assoc, readKey?]
      exact readQuoted?_flatten each [] (c :: rest)

/-- A spelled key starts with a character that starts neither white space nor a comment, and is not
a mark for the start of a document.
-/
theorem Spelling.exists_head {spelling key : List Char} (spelled : Spelling spelling key)
    : ∃ c rest, spelling = c :: rest ∧ isValueChar c = true ∧ c ≠ '\ufeff' := by
  cases spelled with
  | bare nonempty plain =>
      obtain ⟨c, tail, rfl⟩ := List.exists_cons_of_ne_nil nonempty
      have bare := plain c List.mem_cons_self
      exact ⟨c, tail, rfl, isValueChar_of_isBareKeyChar bare, ne_of_isBareKeyChar bare (by decide)⟩
  | literal plain => exact ⟨_, _, rfl, by decide, by decide⟩
  | quoted each => exact ⟨_, _, rfl, by decide, by decide⟩

-----------------------------------------------------------------------------------------
-- Assignments
-----------------------------------------------------------------------------------------

/-- White space within a line. -/
def IsGap (text : List Char) : Prop := ∀ c ∈ text, isSpace c = true

instance : DecidablePred IsGap :=
  fun text => List.decidableBAll (fun c => isSpace c = true) text

theorem skipSpace_append {gap : List Char} (blank : IsGap gap) (rest : List Char)
    : skipSpace (gap ++ rest) = skipSpace rest :=
  List.dropWhile_append_of_pos blank

theorem skipSpace_of_isValueChar {c : Char} (starts : isValueChar c = true) (rest : List Char)
    : skipSpace (c :: rest) = c :: rest := by
  have solid : isSpace c = false := by
    simp only [isValueChar, Bool.and_eq_true, Bool.not_eq_true'] at starts
    exact starts.1
  rw [skipSpace, List.dropWhile_cons, solid]
  rfl

/-- A line with more on it than white space and a comment is not blank. -/
theorem endsHere_eq_false {gap : List Char} (blank : IsGap gap) {c : Char}
    (starts : isValueChar c = true) (rest : List Char)
    : endsHere (gap ++ c :: rest) = false := by
  have comment : c ≠ '#' := by
    rintro rfl
    cases starts
  rw [endsHere, skipSpace_append blank, skipSpace_of_isValueChar starts]
  split
  next none => cases none
  next same => exact absurd (List.cons.inj same).1 comment
  next => rfl

theorem exists_gap_equals {gap : List Char} (blank : IsGap gap) (value : List Char)
    : ∃ c rest, gap ++ '=' :: value = c :: rest ∧ isBareKeyChar c = false := by
  cases gap with
  | nil => exact ⟨'=', value, rfl, by decide⟩
  | cons c gap =>
      have space := blank c List.mem_cons_self
      simp only [isSpace, Bool.or_eq_true, decide_eq_true_eq] at space
      rcases space with rfl | rfl
      · exact ⟨_, _, rfl, by decide⟩
      · exact ⟨_, _, rfl, by decide⟩

section

variable {indent spelling key gap : List Char} (indented : IsGap indent)
  (spelled : Spelling spelling key) (spaced : IsGap gap)

include indented spelled spaced

/-- A line with a spelled key and an equals sign is read as the value after it is. -/
theorem read?_spelling (value : List Char)
    : read? (indent ++ (spelling ++ (gap ++ '=' :: value))) = readValue? key (skipSpace value) := by
  obtain ⟨next, rest, after, stops⟩ := exists_gap_equals spaced value
  have named := readKey?_spelling spelled stops rest
  have equals : skipSpace (gap ++ '=' :: value) = '=' :: value :=
    skipSpace_append spaced ('=' :: value)
  rw [← after] at named
  obtain ⟨c, others, rfl, starts, -⟩ := spelled.exists_head
  rw [read?, List.cons_append, endsHere_eq_false indented starts, skipSpace_append indented,
    skipSpace_of_isValueChar starts, ← List.cons_append, named]
  simp only [equals]
  rfl

end

-----------------------------------------------------------------------------------------
-- Numbers
-----------------------------------------------------------------------------------------

theorem digitValue?_of_isDigit {c : Char} (digit : c.isDigit = true)
    : digitValue? 10 c = some (c.toNat - '0'.toNat) := by
  have bounds : '0'.toNat ≤ c.toNat ∧ c.toNat ≤ '9'.toNat := Char.isDigit_iff_toNat.mp digit
  have ordered : '0' ≤ c ∧ c ≤ '9' := bounds
  have nine : '9'.toNat = '0'.toNat + 9 := rfl
  have below : c.toNat - '0'.toNat < 10 := by omega
  rw [digitValue?, if_pos ordered]
  exact Option.filter_some_pos (decide_eq_true below)

/-- Digits are read as the number that they stand for, by induction on them. -/
theorem readDigits?_of_isDigit {cs : List Char} (digits : ∀ c ∈ cs, c.isDigit = true) (n : Nat)
    {afterDigit : Bool} (ended : afterDigit = true ∨ cs ≠ [])
    : readDigits? 10 n afterDigit cs = some (Nat.ofDigitChars 10 cs n) := by
  induction cs generalizing n afterDigit with
  | nil =>
      rcases ended with rfl | nonempty
      · rfl
      · exact absurd rfl nonempty
  | cons c cs ih =>
      obtain ⟨digit, later⟩ := List.forall_mem_cons.mp digits
      have separator : c ≠ '_' := by
        rintro rfl
        cases digit
      rw [readDigits?.eq_def]
      split
      next none => cases none
      next same => exact absurd (List.cons.inj same).1 separator
      next same =>
        cases same
        rw [digitValue?_of_isDigit digit, Option.bind_some, ih later _ (Or.inl rfl),
          Nat.ofDigitChars_cons, Nat.mul_comm]

/-- A positive number does not start with the digit zero, by induction on its digits. -/
theorem head?_toDigits {n : Nat} (positive : 0 < n) : (Nat.toDigits 10 n).head? ≠ some '0' := by
  induction n using Nat.base_induction 10 (by decide) with
  | single n small =>
      rw [Nat.toDigits_of_lt_base small]
      simp only [List.head?_cons, ne_eq, Option.some.injEq, Nat.digitChar_eq_zero]
      omega
  | digit n last small more ih =>
      rw [← Nat.toDigits_append_toDigits (by decide) more small,
        List.head?_append_of_ne_nil _ Nat.toDigits_ne_nil]
      exact ih more

/-- A positive number in digits is a digit other than zero and more digits. -/
theorem exists_toDigits {n : Nat} (positive : 0 < n)
    : ∃ c rest, Nat.toDigits 10 n = c :: rest ∧ c ≠ '0' ∧ ∀ d ∈ c :: rest, d.isDigit = true := by
  have nonempty : Nat.toDigits 10 n ≠ [] := Nat.toDigits_ne_nil
  obtain ⟨c, rest, same⟩ := List.exists_cons_of_ne_nil nonempty
  refine ⟨c, rest, same, ?_, fun d member => ?_⟩
  · rintro rfl
    exact head?_toDigits positive (same ▸ rfl)
  · exact Nat.isDigit_of_mem_toDigits (by decide) (by decide) (same ▸ member)

theorem readInteger?_toDigits (n : Nat) : readInteger? (Nat.toDigits 10 n) = some (n : Int) := by
  rcases Nat.eq_zero_or_pos n with rfl | positive
  · rfl
  · obtain ⟨c, rest, same, nonzero, digits⟩ := exists_toDigits positive
    have sign {d : Char} (other : d.isDigit = false) : c ≠ d := by
      rintro rfl
      cases (digits c List.mem_cons_self).symm.trans other
    have number : readDecimal? (c :: rest) = some n := by
      rw [readDecimal?.eq_def]
      split
      next zero => exact absurd (List.cons.inj zero).1 nonzero
      next zero => exact absurd (List.cons.inj zero).1 nonzero
      next =>
        rw [readDigits?_of_isDigit digits 0 (Or.inr (List.cons_ne_nil c rest)), ← same,
          Nat.ofDigitChars_ten_toDigits]
    rw [same, readInteger?.eq_def]
    split
    next zero => exact absurd (List.cons.inj zero).1 nonzero
    next zero => exact absurd (List.cons.inj zero).1 nonzero
    next zero => exact absurd (List.cons.inj zero).1 nonzero
    next plus => exact absurd (List.cons.inj plus).1 (sign (by decide))
    next minus => exact absurd (List.cons.inj minus).1 (sign (by decide))
    next => rw [number]; rfl

/-- The ways to write an integer. -/
structure Denotes (text : List Char) (value : Int) : Prop where
  solid : ∀ c ∈ text, isBareKeyChar c = true ∨ c = '+'
  read : readInteger? text = some value

theorem denotes_toDigits (n : Nat) : Denotes (Nat.toDigits 10 n) n where
  solid c member := by
    have digit := Nat.isDigit_of_mem_toDigits (by decide) (by decide) member
    exact Or.inl (by simp [isBareKeyChar, Char.isAlphanum, digit])
  read := readInteger?_toDigits n

namespace Denotes

variable {text : List Char} {value : Int} (denotes : Denotes text value)

include denotes

theorem not_mem {c : Char} (other : isBareKeyChar c = false) (unsigned : c ≠ '+') : c ∉ text := by
  intro member
  rcases denotes.solid c member with bare | rfl
  · cases bare.symm.trans other
  · exact unsigned rfl

theorem isValueChar_of_mem {c : Char} (member : c ∈ text) : isValueChar c = true := by
  rcases denotes.solid c member with bare | rfl
  · exact isValueChar_of_isBareKeyChar bare
  · decide

theorem ne_nil : text ≠ [] := by
  rintro rfl
  cases denotes.read

end Denotes

/-- A line that assigns an integer to a key is read as that, however both are spelled. -/
theorem read?_assignment {spelling key text : List Char} {value : Int}
    (spelled : Spelling spelling key) (denotes : Denotes text value)
    : read? (spelling ++ ' ' :: '=' :: ' ' :: text)
      = some (.assignment (String.ofList key) value) := by
  have solid : skipSpace text = text := by
    obtain ⟨c, rest, rfl⟩ := List.exists_cons_of_ne_nil denotes.ne_nil
    exact skipSpace_of_isValueChar (denotes.isValueChar_of_mem List.mem_cons_self) rest
  have taken : text.takeWhile isValueChar = text :=
    List.takeWhile_eq_self_iff.mpr fun _ => denotes.isValueChar_of_mem
  have dropped : text.dropWhile isValueChar = [] :=
    List.dropWhile_eq_nil_iff.mpr fun _ => denotes.isValueChar_of_mem
  have read : read? (spelling ++ ' ' :: '=' :: ' ' :: text)
      = readValue? key (skipSpace (' ' :: text)) :=
    read?_spelling (show IsGap [] by decide) spelled (show IsGap [' '] by decide) _
  have skipped : skipSpace (' ' :: text) = skipSpace text := rfl
  rw [read, skipped, solid, readValue?, taken, dropped, denotes.read]
  rfl

end SettingsLine

end Backchain
