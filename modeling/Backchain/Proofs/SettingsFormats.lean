import Mathlib.Data.List.Nodup
import Mathlib.Data.List.Perm.Basic
import Backchain.Settings.Storage
import Backchain.Text.Lines

/-! What formats of settings promise. A text format reads a document of assignments as the table of
their entries, unless a key is repeated, and prints a table as such a document. A codec gives each
setting the value that the table has for it, or else its default, and takes no other keys. Together
they give back the settings that they print, and read any assignments of settings as what these
assign.
-/

namespace Backchain

-----------------------------------------------------------------------------------------
-- Documents
-----------------------------------------------------------------------------------------

/-- An assignment as it stands on a line: how the key and the value are written, and what they are.
-/
structure Assignment (Value : Type) where
  spelling : String
  key : String
  text : String
  value : Value

namespace Assignment

variable {Value : Type}

/-- The line of an assignment. -/
def line (assignment : Assignment Value) : String :=
  assignment.spelling ++ " = " ++ assignment.text

/-- The entry of an assignment in a table. -/
def entry (assignment : Assignment Value) : String × Value := (assignment.key, assignment.value)

/-- The assignment of a number to a key, both written plainly. -/
def plain (integer : Nat → Value) (key : String) (n : Nat) : Assignment Value where
  spelling := key
  key := key
  text := toString n
  value := integer n

/-- Whether key and value are written in one of the given ways. -/
def IsWritten (spells : String → String → Prop) (denotes : String → Value → Prop)
    (assignment : Assignment Value) : Prop :=
  spells assignment.spelling assignment.key ∧ denotes assignment.text assignment.value

end Assignment

/-- The documents of given lines. The last line may be ended or not. -/
def Text.documents (lines : List String) : List String := [unlines lines, "\n".intercalate lines]

namespace TableFormat

/-- The greatest integer that every format for tables has. -/
def maxInteger : Nat := 9223372036854775807

/-- Whether a key can be written as it is. -/
def isBareKey (key : String) : Bool :=
  !key.isEmpty && key.toList.all (fun c => c.isAlphanum || c = '_' || c = '-')

/-- What is assumed of a format for tables, given the ways to write keys and values: bare keys are
written as they are and integers in decimal digits; a document of assignments is read as the table
of their entries, in any order, or refused if a key comes twice; and a table of integers under
different bare keys is printed as such a document.
-/
structure Lawful {Value Cause : Type} (format : TableFormat Value Cause) (integer : Nat → Value)
    (spells : String → String → Prop) (denotes : String → Value → Prop) : Prop where
  bare : ∀ key, isBareKey key = true → spells key key
  decimal : ∀ n, n ≤ maxInteger → denotes (toString n) (integer n)
  reads : ∀ assignments : List (Assignment Value),
    (∀ assignment ∈ assignments, assignment.IsWritten spells denotes)
    → (assignments.map Assignment.key).Nodup
    → ∀ document ∈ Text.documents (assignments.map Assignment.line),
        ∃ table, format.parse document = .ok table
          ∧ table.Perm (assignments.map Assignment.entry)
  refuses : ∀ assignments : List (Assignment Value),
    (∀ assignment ∈ assignments, assignment.IsWritten spells denotes)
    → ¬ (assignments.map Assignment.key).Nodup
    → ∀ document ∈ Text.documents (assignments.map Assignment.line),
        ∃ cause, format.parse document = .error cause
  prints : ∀ table : List (String × Nat),
    (∀ entry ∈ table, isBareKey entry.1 = true ∧ entry.2 ≤ maxInteger)
    → (table.map Prod.fst).Nodup
    → ∃ assignments : List (Assignment Value),
        (∀ assignment ∈ assignments, assignment.IsWritten spells denotes)
        ∧ (assignments.map Assignment.entry).Perm (table.map (fun (key, n) => (key, integer n)))
        ∧ ∃ document ∈ Text.documents (assignments.map Assignment.line),
            format.print (table.map (fun (key, n) => (key, integer n))) = .ok document

end TableFormat

/-- What is assumed of a codec for settings: a table is accepted if its entries are integers for
different settings; an entry gives its setting its value, a setting without an entry has its
default, and a table with an entry for anything else is refused; and the table of settings has an
entry for each value, so none for a budget that is missing.
-/
structure SettingsCodec.Lawful {Value Cause : Type} (codec : SettingsCodec Value Cause)
    (integer : Nat → Value) : Prop where
  accepts : ∀ table : List (String × Value),
    (∀ entry ∈ table, ∃ (key : SettingsKey) (n : Nat),
      n ≤ TableFormat.maxInteger ∧ entry = (key.name, integer n))
    → (table.map Prod.fst).Nodup
    → ∃ settings, codec.decode table = .ok settings
  assigns : ∀ (table : List (String × Value)) (settings : Settings),
    codec.decode table = .ok settings
    → ∀ (key : SettingsKey) (n : Nat), n ≤ TableFormat.maxInteger
        → (key.name, integer n) ∈ table → settings.get key = some n
  defaults : ∀ (table : List (String × Value)) (settings : Settings),
    codec.decode table = .ok settings
    → ∀ key : SettingsKey,
        key.name ∉ table.map Prod.fst → settings.get key = ({} : Settings).get key
  refuses : ∀ (table : List (String × Value)) (entry : String × Value),
    entry ∈ table
    → (∀ key : SettingsKey, entry.1 ≠ key.name)
    → ∃ cause, codec.decode table = .error cause
  encodes : ∀ settings : Settings,
    codec.encode settings
      = SettingsKey.all.filterMap
          (fun key => (settings.get key).map (fun n => (key.name, integer n)))

-----------------------------------------------------------------------------------------
-- Settings by key
-----------------------------------------------------------------------------------------

namespace SettingsKey

theorem name_inj {key other : SettingsKey} (same : key.name = other.name) : key = other := by
  revert same
  cases key <;> cases other <;> decide

theorem isBareKey_name (key : SettingsKey) : TableFormat.isBareKey key.name = true := by
  cases key <;> decide

theorem mem_all (key : SettingsKey) : key ∈ all := by
  cases key <;> decide

end SettingsKey

namespace Settings

/-- Settings are the same if all their values are. -/
theorem eq_of_get {settings other : Settings} (same : ∀ key, settings.get key = other.get key)
    : settings = other := by
  have depth : settings.depthBound = other.depthBound := Option.some.inj (same .depthBound)
  have budget : settings.attemptBudget = other.attemptBudget := same .attemptBudget
  have width : settings.renderWidth = other.renderWidth := Option.some.inj (same .renderWidth)
  obtain ⟨_, _, _⟩ := settings
  simp_all

/-- The defaults with the given values in place of some of them. -/
def assigned (assignments : List (SettingsKey × Nat)) : Settings where
  depthBound := (assignments.lookup .depthBound).getD ({} : Settings).depthBound
  attemptBudget := assignments.lookup .attemptBudget
  renderWidth := (assignments.lookup .renderWidth).getD ({} : Settings).renderWidth

theorem get_assigned (assignments : List (SettingsKey × Nat)) (key : SettingsKey)
    : (assigned assignments).get key
      = (assignments.lookup key).or (({} : Settings).get key) := by
  cases key with
  | depthBound => cases found : assignments.lookup .depthBound <;> simp [assigned, get, found]
  | attemptBudget => simp [assigned, get]
  | renderWidth => cases found : assignments.lookup .renderWidth <;> simp [assigned, get, found]

/-- All values are integers that every format has. -/
def InRange (settings : Settings) : Prop :=
  ∀ (key : SettingsKey) (n : Nat), settings.get key = some n → n ≤ TableFormat.maxInteger

/-- The values of settings by key, without a budget if there is none. -/
def assignments (settings : Settings) : List (SettingsKey × Nat) :=
  SettingsKey.all.filterMap (fun key => (settings.get key).map (fun n => (key, n)))

theorem mem_assignments {settings : Settings} {key : SettingsKey} {n : Nat}
    : (key, n) ∈ settings.assignments ↔ settings.get key = some n := by
  simp [assignments, SettingsKey.mem_all]

theorem nodup_assignments (settings : Settings)
    : (settings.assignments.map Prod.fst).Nodup := by
  obtain ⟨depth, budget, width⟩ := settings
  cases budget <;> simp [assignments, SettingsKey.all, get]

theorem assigned_assignments (settings : Settings) : assigned settings.assignments = settings := by
  obtain ⟨depth, budget, width⟩ := settings
  cases budget <;> rfl

end Settings

-----------------------------------------------------------------------------------------
-- Tables and documents of settings
-----------------------------------------------------------------------------------------

namespace SettingsKey

/-- The line that sets a key to a number. -/
def line (key : SettingsKey) (n : Nat) : String := key.name ++ " = " ++ toString n

theorem nodup_names {assignments : List (SettingsKey × Nat)}
    (distinct : (assignments.map Prod.fst).Nodup)
    : (assignments.map (fun (key, _) => key.name)).Nodup := by
  have named := distinct.map (fun _ _ => name_inj)
  rwa [List.map_map] at named

end SettingsKey

section

variable {Value Cause : Type} {format : TableFormat Value Cause} {codec : SettingsCodec Value Cause}
  {integer : Nat → Value} {spells : String → String → Prop} {denotes : String → Value → Prop}

/-- A table of some settings is decoded to these and the defaults of the others. -/
theorem SettingsCodec.Lawful.decode_eq (codes : codec.Lawful integer)
    {assignments : List (SettingsKey × Nat)} (distinct : (assignments.map Prod.fst).Nodup)
    (inRange : ∀ assignment ∈ assignments, assignment.2 ≤ TableFormat.maxInteger)
    {table : List (String × Value)}
    (listed : table.Perm (assignments.map (fun (key, n) => (key.name, integer n))))
    : codec.decode table = .ok (Settings.assigned assignments) := by
  have entries : ∀ entry ∈ table, ∃ (key : SettingsKey) (n : Nat),
      n ≤ TableFormat.maxInteger ∧ entry = (key.name, integer n) := by
    intro entry member
    obtain ⟨⟨key, n⟩, assigned, rfl⟩ := List.mem_map.mp (listed.mem_iff.mp member)
    exact ⟨key, n, inRange _ assigned, rfl⟩
  have keys : (table.map Prod.fst).Perm (assignments.map (fun (key, _) => key.name)) := by
    have mapped := listed.map Prod.fst
    rwa [List.map_map] at mapped
  obtain ⟨settings, decoded⟩ := codes.accepts table entries
    (keys.nodup_iff.mpr (SettingsKey.nodup_names distinct))
  rw [decoded]
  refine congrArg Except.ok (Settings.eq_of_get fun key => ?_)
  rw [Settings.get_assigned]
  cases found : assignments.lookup key with
  | some n =>
      obtain ⟨before, after, split, -⟩ := List.lookup_eq_some_iff.mp found
      have assigned : (key, n) ∈ assignments := by simp [split]
      have member : (key.name, integer n) ∈ table :=
        listed.mem_iff.mpr (List.mem_map.mpr ⟨(key, n), assigned, rfl⟩)
      exact codes.assigns table settings decoded key n (inRange _ assigned) member
  | none =>
      refine codes.defaults table settings decoded key fun member => ?_
      obtain ⟨⟨other, n⟩, assigned, named⟩ := List.mem_map.mp (keys.mem_iff.mp member)
      cases SettingsKey.name_inj named
      exact bne_iff_ne.mp (List.lookup_eq_none_iff.mp found _ assigned) rfl

namespace SettingsFormat

theorem read_of_parse {document : String} {table : List (String × Value)}
    (parsed : format.parse document = .ok table)
    : (ofTables format codec).read document = codec.decode table := by
  simp only [ofTables, parsed, Except.bind]

theorem read_of_parse_error {document : String} {cause : Cause}
    (refused : format.parse document = .error cause)
    : (ofTables format codec).read document = .error cause := by
  simp only [ofTables, refused, Except.bind]

variable (tables : format.Lawful integer spells denotes) (codes : codec.Lawful integer)

include tables codes

/-- Assignments of settings are read as the settings that they assign, in any order. -/
theorem read_assignments {assignments : List (SettingsKey × Nat)}
    (distinct : (assignments.map Prod.fst).Nodup)
    (inRange : ∀ assignment ∈ assignments, assignment.2 ≤ TableFormat.maxInteger)
    {document : String}
    (lines : document ∈ Text.documents (assignments.map (fun (key, n) => key.line n)))
    : (ofTables format codec).read document = .ok (.assigned assignments) := by
  let written := assignments.map (fun (key, n) => Assignment.plain integer key.name n)
  have each : ∀ assignment ∈ written, assignment.IsWritten spells denotes := by
    intro assignment member
    obtain ⟨⟨key, n⟩, listed, rfl⟩ := List.mem_map.mp member
    exact ⟨tables.bare key.name key.isBareKey_name, tables.decimal n (inRange _ listed)⟩
  have keys : written.map Assignment.key = assignments.map (fun (key, _) => key.name) :=
    List.map_map
  have lined : written.map Assignment.line = assignments.map (fun (key, n) => key.line n) :=
    List.map_map
  have entries : written.map Assignment.entry
      = assignments.map (fun (key, n) => (key.name, integer n)) :=
    List.map_map
  rw [← lined] at lines
  obtain ⟨table, parsed, listed⟩ := tables.reads written each
    (keys ▸ SettingsKey.nodup_names distinct) document lines
  rw [entries] at listed
  rw [read_of_parse parsed, codes.decode_eq distinct inRange listed]

/-- Printed settings are read back. -/
theorem exists_print {settings : Settings} (inRange : settings.InRange)
    : ∃ document, (ofTables format codec).print settings = .ok document
        ∧ (ofTables format codec).read document = .ok settings := by
  let table := settings.assignments.map (fun (key, n) => (key.name, n))
  have distinct := settings.nodup_assignments
  have bounded : ∀ assignment ∈ settings.assignments, assignment.2 ≤ TableFormat.maxInteger :=
    fun _ member => inRange _ _ (Settings.mem_assignments.mp member)
  have simple : ∀ entry ∈ table,
      TableFormat.isBareKey entry.1 = true ∧ entry.2 ≤ TableFormat.maxInteger := by
    intro entry member
    obtain ⟨⟨key, n⟩, listed, rfl⟩ := List.mem_map.mp member
    exact ⟨key.isBareKey_name, bounded _ listed⟩
  have keys : table.map Prod.fst = settings.assignments.map (fun (key, _) => key.name) :=
    List.map_map
  have values : table.map (fun (key, n) => (key, integer n))
      = settings.assignments.map (fun (key, n) => (key.name, integer n)) :=
    List.map_map
  have encoded : codec.encode settings
      = settings.assignments.map (fun (key, n) => (key.name, integer n)) := by
    rw [codes.encodes, Settings.assignments, List.map_filterMap]
    simp only [Option.map_map]
    rfl
  have unrepeated := SettingsKey.nodup_names distinct
  obtain ⟨written, each, entries, document, lines, printed⟩ :=
    tables.prints table simple (keys ▸ unrepeated)
  rw [values] at entries printed
  have names : (written.map Assignment.key).Perm
      (settings.assignments.map (fun (key, _) => key.name)) := by
    have mapped := entries.map Prod.fst
    rwa [List.map_map, List.map_map] at mapped
  obtain ⟨read, parsed, listed⟩ := tables.reads written each (names.nodup_iff.mpr unrepeated)
    document lines
  refine ⟨document, ?_, ?_⟩
  · rw [← printed, ← encoded]
    rfl
  · rw [read_of_parse parsed, codes.decode_eq distinct bounded (listed.trans entries),
      Settings.assigned_assignments]

/-- Assignments are refused if one of the keys is not a setting or comes again. -/
theorem exists_cause {assignments : List (Assignment Value)}
    (each : ∀ assignment ∈ assignments, assignment.IsWritten spells denotes)
    (wrong : (∃ assignment ∈ assignments, ∀ key : SettingsKey, assignment.key ≠ key.name)
      ∨ ¬ (assignments.map Assignment.key).Nodup)
    {document : String} (lines : document ∈ Text.documents (assignments.map Assignment.line))
    : ∃ cause, (ofTables format codec).read document = .error cause := by
  by_cases distinct : (assignments.map Assignment.key).Nodup
  · obtain ⟨assignment, member, unknown⟩ := wrong.resolve_right (not_not_intro distinct)
    obtain ⟨table, parsed, listed⟩ := tables.reads assignments each distinct document lines
    have entry : assignment.entry ∈ table :=
      listed.mem_iff.mpr (List.mem_map.mpr ⟨assignment, member, rfl⟩)
    rw [read_of_parse parsed]
    exact codes.refuses table assignment.entry entry unknown
  · obtain ⟨cause, refused⟩ := tables.refuses assignments each distinct document lines
    exact ⟨cause, read_of_parse_error refused⟩

end SettingsFormat

end

end Backchain
