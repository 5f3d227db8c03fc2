import Backchain.Proofs.SettingsFormats
import Backchain.Proofs.SettingsLines
import Backchain.Proofs.StoredFiles

/-! Documents of settings. The standard format goes through the lines of a document and keeps their
entries; the standard codec goes through the entries of a table and keeps what has been set, so that
nothing is set twice. Both are as lawful as formats of settings are assumed to be. For all such
formats, settings are read back from what is printed, loaded from where they have been saved, and
read from any document that sets each of some keys once, in whatever order.
-/

namespace Backchain

-----------------------------------------------------------------------------------------
-- The standard format for tables
-----------------------------------------------------------------------------------------

namespace TableFormat

/-- The ways to write a key in the standard format. -/
def Spells (spelling key : String) : Prop := SettingsLine.Spelling spelling.toList key.toList

/-- The ways to write an integer in the standard format. -/
def Denotes (text : String) (value : Int) : Prop := SettingsLine.Denotes text.toList value

theorem spells_of_isBareKey {key : String} (bare : isBareKey key = true) : Spells key key := by
  obtain ⟨filled, plain⟩ := Bool.and_eq_true_iff.mp bare
  refine .bare ?_ (List.all_eq_true.mp plain)
  intro empty
  rw [String.toList_eq_nil_iff.mp empty] at filled
  cases filled

theorem denotes_toString (n : Nat) : Denotes (toString n) n := by
  rw [Denotes, Nat.toString_eq_repr, Nat.toList_repr]
  exact SettingsLine.denotes_toDigits n

section

variable {assignment : Assignment Int} (written : assignment.IsWritten Spells Denotes)

include written

theorem read?_line
    : SettingsLine.read? assignment.line.toList
      = some (.assignment assignment.key assignment.value) := by
  have chars : assignment.line.toList
      = assignment.spelling.toList ++ ' ' :: '=' :: ' ' :: assignment.text.toList := by
    simp [Assignment.line]
  rw [chars, SettingsLine.read?_assignment written.1 written.2, String.ofList_toList]

theorem isLine_line : Text.IsLine assignment.line := by
  obtain ⟨spelled, denotes⟩ := written
  have filled := denotes.ne_nil
  have unbroken := denotes.not_mem (show SettingsLine.isBareKeyChar '\n' = false by decide)
    (by decide)
  have returned := denotes.not_mem (show SettingsLine.isBareKeyChar '\r' = false by decide)
    (by decide)
  have chars : assignment.line.toList
      = (assignment.spelling.toList ++ [' ', '=', ' ']) ++ assignment.text.toList := by
    simp [Assignment.line]
  refine ⟨?_, ?_, ?_⟩
  · rw [chars]
    simp [spelled.newline_not_mem, unbroken]
  · simp [chars]
  · rw [chars, List.getLast?_append_of_ne_nil _ filled]
    exact fun ended => returned (List.mem_of_getLast? ended)

theorem exists_head_line : ∃ c rest, assignment.line.toList = c :: rest ∧ c ≠ '\ufeff' := by
  obtain ⟨c, rest, spelled, -, kept⟩ := SettingsLine.Spelling.exists_head written.1
  refine ⟨c, rest ++ " = ".toList ++ assignment.text.toList, ?_, kept⟩
  simp [Assignment.line, spelled]

end

theorem skipMark_of_ne {c : Char} (kept : c ≠ '\ufeff') (rest : List Char)
    : skipMark (c :: rest) = c :: rest := by
  rw [skipMark.eq_def]
  split
  next same => exact absurd (List.cons.inj same).1 kept
  next => rfl

/-- A document starts as its first line does. -/
theorem exists_toList_document {line document : String} {rest : List String}
    (lines : document ∈ Text.documents (line :: rest))
    : ∃ more, document.toList = line.toList ++ more := by
  rcases List.mem_cons.mp lines with rfl | only
  · exact ⟨_, Text.toList_unlines_cons line rest⟩
  · obtain rfl := List.mem_singleton.mp only
    cases rest with
    | nil => exact ⟨[], by simp⟩
    | cons next rest => exact ⟨'\n' :: ("\n".intercalate (next :: rest)).toList, by simp⟩

section

variable {assignments : List (Assignment Int)}
  (each : ∀ assignment ∈ assignments, assignment.IsWritten Spells Denotes)

include each

/-- The lines of a document of assignments are those of the assignments. -/
theorem linesFrom_document {document : String}
    (lines : document ∈ Text.documents (assignments.map Assignment.line))
    : Text.linesFrom [] (skipMark document.toList)
      = assignments.map (fun assignment => assignment.line.toList) := by
  have unmarked : skipMark document.toList = document.toList := by
    cases assignments with
    | nil =>
        have empty : document = "" := by
          rcases List.mem_cons.mp lines with rfl | only
          · rfl
          · exact List.mem_singleton.mp only
        rw [empty]
        rfl
    | cons first rest =>
        obtain ⟨c, others, starts, kept⟩ := exists_head_line (each first List.mem_cons_self)
        obtain ⟨more, chars⟩ := exists_toList_document lines
        rw [chars, starts, List.cons_append, skipMark_of_ne kept]
  have whole : ∀ line ∈ assignments.map Assignment.line, Text.IsLine line := by
    intro line member
    obtain ⟨assignment, listed, rfl⟩ := List.mem_map.mp member
    exact isLine_line (each assignment listed)
  have same : (assignments.map Assignment.line).map String.toList
      = assignments.map (fun assignment => assignment.line.toList) :=
    List.map_map
  rw [unmarked, ← same]
  rcases List.mem_cons.mp lines with rfl | only
  · exact Text.linesFrom_unlines whole
  · obtain rfl := List.mem_singleton.mp only
    exact Text.linesFrom_intercalate whole

/-- Lines of assignments are read as their entries, by induction on the assignments. -/
theorem entries_lines
    : entries (assignments.map (fun assignment => assignment.line.toList))
      = .ok (assignments.map Assignment.entry) := by
  induction assignments with
  | nil => rfl
  | cons assignment rest ih =>
      obtain ⟨written, later⟩ := List.forall_mem_cons.mp each
      rw [List.map_cons, entries, read?_line written, ih later]
      rfl

theorem parse_document {document : String}
    (lines : document ∈ Text.documents (assignments.map Assignment.line))
    : standard.parse document = checkKeys (assignments.map Assignment.entry) := by
  simp only [standard, linesFrom_document each lines, entries_lines each, Except.bind]

end

/-- A table has no repeated key exactly if its keys are all different, by induction on the table. -/
theorem repeatedKey?_eq_none_iff {table : List (String × Int)}
    : repeatedKey? table = none ↔ (table.map Prod.fst).Nodup := by
  induction table with
  | nil => simp [repeatedKey?]
  | cons entry rest ih =>
      obtain ⟨key, value⟩ := entry
      have again : rest.any (fun other => other.1 = key) = true ↔ key ∈ rest.map Prod.fst := by
        simp
      rw [repeatedKey?, List.map_cons, List.nodup_cons, ← ih, ← again]
      split <;> simp_all

theorem nodup_entries_iff {assignments : List (Assignment Int)}
    : ((assignments.map Assignment.entry).map Prod.fst).Nodup
      ↔ (assignments.map Assignment.key).Nodup := by
  rw [List.map_map]
  rfl

/-- The standard format is as formats for tables are assumed to be. -/
theorem standard_lawful : standard.Lawful (fun n => (n : Int)) Spells Denotes where
  bare _ := spells_of_isBareKey
  decimal n _ := denotes_toString n
  reads assignments each distinct document lines := by
    refine ⟨assignments.map Assignment.entry, ?_, .refl _⟩
    have unrepeated := repeatedKey?_eq_none_iff.mpr (nodup_entries_iff.mpr distinct)
    simp only [parse_document each lines, checkKeys, unrepeated]
  refuses assignments each repeats document lines := by
    have repeated := mt (nodup_entries_iff.mp ∘ repeatedKey?_eq_none_iff.mp) repeats
    obtain ⟨key, found⟩ := Option.ne_none_iff_exists'.mp repeated
    refine ⟨.repeatedKey key, ?_⟩
    simp only [parse_document each lines, checkKeys, found]
  prints table simple distinct := by
    let written : List (Assignment Int) :=
      table.map (fun entry => .plain (fun n => (n : Int)) entry.1 entry.2)
    refine ⟨written, ?_, ?_, Text.unlines (written.map Assignment.line), List.mem_cons_self, ?_⟩
    · intro assignment member
      obtain ⟨entry, listed, rfl⟩ := List.mem_map.mp member
      exact ⟨spells_of_isBareKey (simple entry listed).1, denotes_toString entry.2⟩
    · rw [List.map_map]
      exact .refl _
    · have lines : (table.map (fun entry => (entry.1, (entry.2 : Int)))).map assignmentLine
          = written.map Assignment.line := by
        rw [List.map_map, List.map_map]
        rfl
      simp only [standard, lines]

end TableFormat

-----------------------------------------------------------------------------------------
-- The standard codec
-----------------------------------------------------------------------------------------

theorem SettingsKey.ofName?_name (key : SettingsKey) : ofName? key.name = some key := by
  cases key <;> decide

theorem SettingsKey.eq_name_of_ofName? {name : String} {key : SettingsKey}
    (found : ofName? name = some key)
    : name = key.name := by
  unfold ofName? at found
  have named := List.find?_some found
  exact (of_decide_eq_true named).symm

namespace Overrides

theorem get_set (overrides : Overrides) (key : SettingsKey) (value : Option Nat)
    (other : SettingsKey)
    : (overrides.set key value).get other = if other = key then value else overrides.get other := by
  cases key <;> cases other <;> rfl

/-- An assignment succeeds exactly if it sets a known key for the first time, to a number in range.
-/
theorem assign_eq_ok_iff {overrides next : Overrides} {entry : String × Int}
    : overrides.assign entry = .ok next
      ↔ ∃ key : SettingsKey,
          entry.1 = key.name
          ∧ overrides.get key = none
          ∧ (0 ≤ entry.2 ∧ entry.2 ≤ maxValue)
          ∧ overrides.set key (some entry.2.toNat) = next := by
  constructor
  · intro assigned
    unfold assign at assigned
    split at assigned
    next => cases assigned
    next key found =>
      split at assigned
      next => cases assigned
      next unset =>
        split at assigned
        next => cases assigned
        next inRange =>
          refine ⟨key, SettingsKey.eq_name_of_ofName? found, ?_, by omega, Except.ok.inj assigned⟩
          exact Option.not_isSome_iff_eq_none.mp unset
  · rintro ⟨key, named, unset, inRange, rfl⟩
    have bounds : ¬ (entry.2 < 0 ∨ (maxValue : Int) < entry.2) := by omega
    simp only [assign, named, SettingsKey.ofName?_name, unset]
    rw [if_neg (by decide), if_neg bounds]

/-- Reading a table goes on after an entry if its assignment succeeds. -/
theorem exists_of_foldlM_cons {overrides next : Overrides} {entry : String × Int}
    {rest : List (String × Int)} (read : (entry :: rest).foldlM assign overrides = .ok next)
    : ∃ middle, overrides.assign entry = .ok middle ∧ rest.foldlM assign middle = .ok next := by
  rw [List.foldlM_cons] at read
  cases assigned : overrides.assign entry with
  | error e =>
      rw [assigned] at read
      cases read
  | ok middle =>
      rw [assigned] at read
      exact ⟨middle, rfl, read⟩

/-- What has been set stays as it is, by induction on the table. -/
theorem get_of_foldlM {overrides next : Overrides} {table : List (String × Int)}
    (read : table.foldlM assign overrides = .ok next) {key : SettingsKey} {n : Nat}
    (known : overrides.get key = some n)
    : next.get key = some n := by
  induction table generalizing overrides with
  | nil =>
      cases read
      exact known
  | cons entry rest ih =>
      obtain ⟨middle, assigned, later⟩ := exists_of_foldlM_cons read
      obtain ⟨other, _, unset, _, rfl⟩ := assign_eq_ok_iff.mp assigned
      refine ih later ?_
      have different : key ≠ other := by
        rintro rfl
        cases unset.symm.trans known
      rw [get_set, if_neg different, known]

/-- Every entry of a table that is read sets the value of a key, by induction on the table. -/
theorem exists_key_of_foldlM {overrides next : Overrides} {table : List (String × Int)}
    (read : table.foldlM assign overrides = .ok next) {entry : String × Int}
    (member : entry ∈ table)
    : ∃ key : SettingsKey, entry.1 = key.name ∧ next.get key = some entry.2.toNat := by
  induction table generalizing overrides with
  | nil => cases member
  | cons first rest ih =>
      obtain ⟨middle, assigned, later⟩ := exists_of_foldlM_cons read
      rcases List.mem_cons.mp member with rfl | member
      · obtain ⟨key, named, _, _, rfl⟩ := assign_eq_ok_iff.mp assigned
        refine ⟨key, named, get_of_foldlM later ?_⟩
        rw [get_set, if_pos rfl]
      · exact ih later member

/-- A key that a table does not have keeps its value, by induction on the table. -/
theorem get_of_not_mem {overrides next : Overrides} {table : List (String × Int)}
    (read : table.foldlM assign overrides = .ok next) {key : SettingsKey}
    (absent : key.name ∉ table.map Prod.fst)
    : next.get key = overrides.get key := by
  induction table generalizing overrides with
  | nil =>
      cases read
      rfl
  | cons entry rest ih =>
      obtain ⟨middle, assigned, later⟩ := exists_of_foldlM_cons read
      obtain ⟨other, named, _, _, rfl⟩ := assign_eq_ok_iff.mp assigned
      rw [List.map_cons, List.mem_cons, not_or, named] at absent
      have different : key ≠ other := fun same => absent.1 (congrArg SettingsKey.name same)
      rw [ih later absent.2, get_set, if_neg different]

/-- A table is read if it assigns numbers in range to different keys that are not yet set, by
induction on the table.
-/
theorem exists_foldlM {overrides : Overrides} {table : List (String × Int)}
    (entries : ∀ entry ∈ table, ∃ (key : SettingsKey) (n : Nat),
      n ≤ maxValue ∧ entry = (key.name, (n : Int)))
    (distinct : (table.map Prod.fst).Nodup)
    (unset : ∀ key : SettingsKey, key.name ∈ table.map Prod.fst → overrides.get key = none)
    : ∃ next, table.foldlM assign overrides = .ok next := by
  induction table generalizing overrides with
  | nil => exact ⟨overrides, rfl⟩
  | cons entry rest ih =>
      obtain ⟨⟨key, n, inRange, rfl⟩, others⟩ := List.forall_mem_cons.mp entries
      obtain ⟨fresh, distinct⟩ := List.nodup_cons.mp distinct
      have assigned : overrides.assign (key.name, (n : Int)) = .ok (overrides.set key (some n)) :=
        assign_eq_ok_iff.mpr ⟨key, rfl, unset key List.mem_cons_self, by omega, rfl⟩
      have still : ∀ other : SettingsKey, other.name ∈ rest.map Prod.fst
          → (overrides.set key (some n)).get other = none := by
        intro other member
        have different : other ≠ key := by
          rintro rfl
          exact fresh member
        rw [get_set, if_neg different]
        exact unset other (List.mem_cons_of_mem _ member)
      obtain ⟨next, read⟩ := ih others distinct still
      refine ⟨next, ?_⟩
      rw [List.foldlM_cons, assigned]
      exact read

end Overrides

theorem Settings.get_override (settings : Settings) (overrides : Overrides) (key : SettingsKey)
    : (settings.override overrides).get key = (overrides.get key).or (settings.get key) := by
  cases key with
  | depthBound => cases set : overrides.depthBound <;> simp [override, get, Overrides.get, set]
  | attemptBudget => rfl
  | renderWidth => cases set : overrides.renderWidth <;> simp [override, get, Overrides.get, set]

namespace SettingsCodec

theorem exists_of_decode {table : List (String × Int)} {settings : Settings}
    (decoded : standard.decode table = .ok settings)
    : ∃ overrides, table.foldlM Overrides.assign default = .ok overrides
        ∧ settings = ({} : Settings).override overrides := by
  cases read : table.foldlM Overrides.assign default with
  | error e =>
      simp only [standard, read] at decoded
      cases decoded
  | ok overrides =>
      simp only [standard, read] at decoded
      exact ⟨overrides, rfl, (Except.ok.inj decoded).symm⟩

theorem get_default (key : SettingsKey) : (default : Overrides).get key = none := by
  cases key <;> rfl

/-- The standard codec is as codecs for settings are assumed to be. -/
theorem standard_lawful : standard.Lawful (fun n => (n : Int)) where
  accepts table entries distinct := by
    have wider : TableFormat.maxInteger ≤ Overrides.maxValue := by decide
    have bounded : ∀ entry ∈ table, ∃ (key : SettingsKey) (n : Nat),
        n ≤ Overrides.maxValue ∧ entry = (key.name, (n : Int)) := by
      intro entry member
      obtain ⟨key, n, inRange, same⟩ := entries entry member
      exact ⟨key, n, Nat.le_trans inRange wider, same⟩
    obtain ⟨overrides, read⟩ := Overrides.exists_foldlM bounded distinct
      fun key _ => get_default key
    refine ⟨({} : Settings).override overrides, ?_⟩
    simp only [standard, read]
    rfl
  assigns table settings decoded key n _ member := by
    obtain ⟨overrides, read, rfl⟩ := exists_of_decode decoded
    obtain ⟨other, named, set⟩ := Overrides.exists_key_of_foldlM read member
    cases SettingsKey.name_inj named
    rw [Settings.get_override, set, Option.some_or]
    rfl
  defaults table settings decoded key absent := by
    obtain ⟨overrides, read, rfl⟩ := exists_of_decode decoded
    rw [Settings.get_override, Overrides.get_of_not_mem read absent, get_default, Option.none_or]
  refuses table entry member unknown := by
    cases decoded : standard.decode table with
    | error cause => exact ⟨cause, rfl⟩
    | ok settings =>
        obtain ⟨overrides, read, _⟩ := exists_of_decode decoded
        obtain ⟨key, named, _⟩ := Overrides.exists_key_of_foldlM read member
        exact absurd named (unknown key)
  encodes _ := rfl

end SettingsCodec

-----------------------------------------------------------------------------------------
-- Documents of settings
-----------------------------------------------------------------------------------------

namespace Settings

theorem ofText_of_read {Cause : Type} {format : SettingsFormat Cause} {text : String}
    {settings : Settings} (read : format.read text = .ok settings)
    : ofText format text = .ok settings := by
  simp only [ofText, read, Except.mapError]

theorem ofText_of_read_error {Cause : Type} {format : SettingsFormat Cause} {text : String}
    {cause : Cause} (refused : format.read text = .error cause)
    : ofText format text = .error (.unreadable "<string>" cause) := by
  simp only [ofText, refused, Except.mapError]

/-- Settings that have been saved at a path are loaded from there, if they are read back from what
is printed.
-/
theorem load_of_save {Cause : Type} {format : SettingsFormat Cause} {settings : Settings}
    {text : String} (printed : format.print settings = .ok text)
    (read : format.read text = .ok settings) {root : Folder} {path : String}
    (saved : (save format settings root path).2 = .ok ())
    : load format (save format settings root path).1 path = .ok settings := by
  rw [save, printed] at saved ⊢
  cases written : root.writeWithParents path text with
  | mk next result =>
      simp only [written] at saved ⊢
      cases result with
      | error e => cases saved
      | ok done =>
          simp only [load, Folder.read_of_writeWithParents written, read, Except.mapError]

/-- Settings are read back from what is printed, and loaded from where they have been saved. More
generally they are read from any document that sets some of the keys once each, in any order,
whether its last line is ended or not: the other keys have their defaults. A document of
assignments with another key in it, or with a key that comes twice, is refused, however the keys and
values are written and whatever they are. This is for every lawful format for tables and every
lawful codec for settings.
-/
theorem ofText_documents {Value Cause : Type} {format : TableFormat Value Cause}
    {codec : SettingsCodec Value Cause} {integer : Nat → Value} {spells : String → String → Prop}
    {denotes : String → Value → Prop} (tables : format.Lawful integer spells denotes)
    (codes : codec.Lawful integer)
    : let settingsFormat := SettingsFormat.ofTables format codec
      (∀ settings : Settings,
        settings.InRange
        → (∃ text, settingsFormat.print settings = .ok text
            ∧ ofText settingsFormat text = .ok settings)
          ∧ ∀ root path,
              (save settingsFormat settings root path).2 = .ok ()
              → load settingsFormat (save settingsFormat settings root path).1 path
                = .ok settings)
      ∧ (∀ assignments : List (SettingsKey × Nat),
          (assignments.map Prod.fst).Nodup
          → (∀ assignment ∈ assignments, assignment.2 ≤ TableFormat.maxInteger)
          → ∀ document ∈ Text.documents (assignments.map (fun (key, n) => key.line n)),
              ofText settingsFormat document = .ok (assigned assignments))
      ∧ ∀ assignments : List (Assignment Value),
          (∀ assignment ∈ assignments, assignment.IsWritten spells denotes)
          → (∃ assignment ∈ assignments, ∀ key : SettingsKey, assignment.key ≠ key.name)
            ∨ ¬ (assignments.map Assignment.key).Nodup
          → ∀ document ∈ Text.documents (assignments.map Assignment.line),
              ∃ cause, ofText settingsFormat document
                = .error (.unreadable "<string>" cause) := by
  intro settingsFormat
  refine ⟨fun settings inRange => ?_, fun assignments distinct inRange document lines => ?_,
    fun assignments each wrong document lines => ?_⟩
  · obtain ⟨text, printed, read⟩ := SettingsFormat.exists_print tables codes inRange
    exact ⟨⟨text, printed, ofText_of_read read⟩, fun root path => load_of_save printed read⟩
  · exact ofText_of_read (SettingsFormat.read_assignments tables codes distinct inRange lines)
  · obtain ⟨cause, refused⟩ := SettingsFormat.exists_cause tables codes each wrong lines
    exact ⟨cause, ofText_of_read_error refused⟩

/-- The settings of a document with two keys, the last one first. -/
def wideSearch : List (SettingsKey × Nat) :=
  [(.renderWidth, 40), (.depthBound, 9223372036854775807)]

/-- Assignments of which the first is to a key that is not a setting. -/
def shallowSearch : List (Assignment Int) :=
  [⟨"depth", "depth", "3", 3⟩, ⟨"render_width", "render_width", "+4_0", 40⟩]

/-- Assignments to one key that is spelled in two ways. -/
def undecidedSearch : List (Assignment Int) :=
  [⟨"\x27depth_bound\x27", "depth_bound", "0x3", 3⟩, ⟨"depth_bound", "depth_bound", "5", 5⟩]

theorem ofText_documents_of_standard
    : let settingsFormat := SettingsFormat.standard
      (wideSearch.map Prod.fst).Nodup
      ∧ (∀ assignment ∈ wideSearch, assignment.2 ≤ TableFormat.maxInteger)
      ∧ assigned wideSearch = ⟨9223372036854775807, none, 40⟩
      ∧ ofText settingsFormat "render_width = 40\ndepth_bound = 9223372036854775807\n"
        = .ok (assigned wideSearch)
      ∧ ofText settingsFormat "render_width = 40\ndepth_bound = 9223372036854775807"
        = .ok (assigned wideSearch)
      ∧ (assigned wideSearch).InRange
      ∧ (∃ text, settingsFormat.print (assigned wideSearch) = .ok text
          ∧ ofText settingsFormat text = .ok (assigned wideSearch))
      ∧ (save settingsFormat (assigned wideSearch) {} "solver/wide.toml").2 = .ok ()
      ∧ load settingsFormat (save settingsFormat (assigned wideSearch) {} "solver/wide.toml").1
          "solver/wide.toml"
        = .ok (assigned wideSearch)
      ∧ (∀ assignment ∈ shallowSearch ++ undecidedSearch,
          assignment.IsWritten TableFormat.Spells TableFormat.Denotes)
      ∧ (∃ cause, ofText settingsFormat "depth = 3\nrender_width = +4_0"
          = .error (.unreadable "<string>" cause))
      ∧ ∃ cause, ofText settingsFormat "\x27depth_bound\x27 = 0x3\ndepth_bound = 5\n"
          = .error (.unreadable "<string>" cause) := by
  intro settingsFormat
  have saved : (save SettingsFormat.standard (assigned wideSearch) {} "solver/wide.toml").2
      = .ok () := by
    rfl
  have distinct : (wideSearch.map Prod.fst).Nodup := by decide
  have bounded : ∀ assignment ∈ wideSearch, assignment.2 ≤ TableFormat.maxInteger := by decide
  have inRange : (assigned wideSearch).InRange := by
    intro key n value
    cases key <;> cases value <;> decide
  have bare {key : String} (simple : TableFormat.isBareKey key = true)
      : TableFormat.Spells key key :=
    TableFormat.spells_of_isBareKey simple
  have integer {text : String} {value : Int}
      (solid : text.toList.all (fun c => SettingsLine.isBareKeyChar c || c = '+') = true)
      (read : SettingsLine.readInteger? text.toList = some value)
      : TableFormat.Denotes text value := by
    refine ⟨fun c member => ?_, read⟩
    simpa using List.all_eq_true.mp solid c member
  have plain : ∀ c ∈ "depth_bound".toList, (SettingsLine.isAllowed c && c ≠ '\x27') = true :=
    List.all_eq_true.mp (by decide)
  have literal : TableFormat.Spells "\x27depth_bound\x27" "depth_bound" := .literal plain
  have other : ∀ assignment ∈ shallowSearch,
      assignment.IsWritten TableFormat.Spells TableFormat.Denotes :=
    List.forall_mem_cons.mpr ⟨⟨bare (by decide), integer (by decide) (by decide)⟩,
      List.forall_mem_singleton.mpr ⟨bare (by decide), integer (by decide) (by decide)⟩⟩
  have twice : ∀ assignment ∈ undecidedSearch,
      assignment.IsWritten TableFormat.Spells TableFormat.Denotes :=
    List.forall_mem_cons.mpr ⟨⟨literal, integer (by decide) (by decide)⟩,
      List.forall_mem_singleton.mpr ⟨bare (by decide), integer (by decide) (by decide)⟩⟩
  have unknown : ∃ assignment ∈ shallowSearch, ∀ key : SettingsKey, assignment.key ≠ key.name := by
    refine ⟨_, List.mem_cons_self, fun key => ?_⟩
    cases key <;> decide
  obtain ⟨printed, listed, refused⟩ :=
    ofText_documents TableFormat.standard_lawful SettingsCodec.standard_lawful
  refine ⟨distinct, bounded, rfl, ?_, ?_, inRange, (printed _ inRange).1, saved,
    (printed _ inRange).2 _ _ saved, List.forall_mem_append.mpr ⟨other, twice⟩, ?_, ?_⟩
  · exact listed wideSearch distinct bounded _ List.mem_cons_self
  · exact listed wideSearch distinct bounded _ (List.mem_cons_of_mem _ List.mem_cons_self)
  · exact refused shallowSearch other (Or.inl unknown) _
      (List.mem_cons_of_mem _ List.mem_cons_self)
  · exact refused undecidedSearch twice (Or.inr (by decide)) _ List.mem_cons_self

end Settings

end Backchain
