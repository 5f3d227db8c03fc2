import Backchain.Folder

/-! What is written at a path is read there. The names of a path lead from the working folder to an
address, and to the same one in every tree of files that has the folders on the way. Writing a file
changes what stands at its own address, and takes no folder away.
-/

namespace Backchain

-----------------------------------------------------------------------------------------
-- Addresses
-----------------------------------------------------------------------------------------

namespace FolderEntry

/-- What stands at an address below an entry. -/
def at? : FolderEntry → List String → Option FolderEntry
  | entry, [] => some entry
  | .file _, _ :: _ => none
  | .folder children, name :: rest => (Folder.child? children name).bind (fun next => next.at? rest)

/-- An entry with another one put at an address below it. -/
def putAt (new : FolderEntry) : FolderEntry → List String → FolderEntry
  | _, [] => new
  | .file text, _ :: _ => .file text
  | .folder children, name :: rest =>
      let next := (Folder.child? children name).getD (.folder [])
      .folder (Folder.setChild children name (putAt new next rest))

end FolderEntry

theorem Folder.lookup_filter {children : List (String × FolderEntry)} {name other : String}
    (different : other ≠ name)
    : (children.filter (fun entry => entry.1 ≠ name)).lookup other = children.lookup other := by
  induction children with
  | nil => rfl
  | cons entry rest ih =>
      by_cases here : entry.1 = name
      · have apart : (other == entry.1) = false := beq_false_of_ne (here ▸ different)
        rw [List.filter_cons_of_neg (by simpa using here), ih, List.lookup_cons, apart]
      · rw [List.filter_cons_of_pos (by simpa using here), List.lookup_cons, List.lookup_cons, ih]

theorem Folder.child?_setChild (children : List (String × FolderEntry)) (name : String)
    (entry : FolderEntry) (other : String)
    : child? (setChild children name entry) other
      = if other = name then some entry else child? children other := by
  rw [child?, setChild, List.lookup_cons]
  by_cases same : other = name
  · rw [if_pos same, beq_iff_eq.mpr same]
  · rw [if_neg same, beq_false_of_ne same, lookup_filter same, child?]

namespace FolderEntry

theorem at?_append (entry : FolderEntry) (first second : List String)
    : entry.at? (first ++ second) = (entry.at? first).bind (fun next => next.at? second) := by
  induction first generalizing entry with
  | nil => rfl
  | cons name rest ih =>
      cases entry with
      | file text => rfl
      | folder children =>
          simp only [List.cons_append, at?, Option.bind_assoc, ih]

theorem exists_of_at?_cons {entry found : FolderEntry} {name : String} {rest : List String}
    (stands : entry.at? (name :: rest) = some found)
    : ∃ children next, entry = .folder children ∧ Folder.child? children name = some next
        ∧ next.at? rest = some found := by
  cases entry with
  | file text => cases stands
  | folder children =>
      obtain ⟨next, held, below⟩ := Option.bind_eq_some_iff.mp stands
      exact ⟨children, next, rfl, held, below⟩

theorem putAt_folder {children : List (String × FolderEntry)} {name : String} {next : FolderEntry}
    (held : Folder.child? children name = some next) (new : FolderEntry) (rest : List String)
    : putAt new (.folder children) (name :: rest)
      = .folder (Folder.setChild children name (putAt new next rest)) := by
  rw [putAt, held, Option.getD_some]

variable {entry : FolderEntry} {address : List String} {children : List (String × FolderEntry)}

/-- What is put under a name in a folder at an address is put into that folder, by induction on the
address.
-/
theorem putAt_append (folder : entry.at? address = some (.folder children)) (new : FolderEntry)
    (name : String)
    : putAt new entry (address ++ [name])
      = putAt (.folder (Folder.setChild children name new)) entry address := by
  induction address generalizing entry with
  | nil =>
      cases folder
      rfl
  | cons first rest ih =>
      obtain ⟨outer, next, rfl, held, below⟩ := exists_of_at?_cons folder
      rw [List.cons_append, putAt_folder held, putAt_folder held, ih below]

/-- What is put under a name in a folder stands there, by induction on the address of the folder. -/
theorem at?_putAt (folder : entry.at? address = some (.folder children)) (new : FolderEntry)
    (name : String)
    : (putAt new entry (address ++ [name])).at? (address ++ [name]) = some new := by
  induction address generalizing entry with
  | nil =>
      cases folder
      simp [putAt, at?, Folder.child?_setChild]
  | cons first rest ih =>
      obtain ⟨outer, next, rfl, held, below⟩ := exists_of_at?_cons folder
      rw [List.cons_append, putAt_folder held, at?, Folder.child?_setChild, if_pos rfl,
        Option.bind_some, ih below]

/-- No folder is lost when an entry is put where no folder stands, by induction on the address. -/
theorem exists_at?_putAt (new : FolderEntry)
    (apart : ∀ inner, entry.at? address ≠ some (.folder inner)) {other : List String}
    (folder : entry.at? other = some (.folder children))
    : ∃ inner, (putAt new entry address).at? other = some (.folder inner) := by
  induction address generalizing entry other with
  | nil =>
      cases other with
      | nil => exact absurd folder (apart children)
      | cons name rest =>
          obtain ⟨outer, next, rfl, _⟩ := exists_of_at?_cons folder
          exact absurd rfl (apart outer)
  | cons first rest ih =>
      cases entry with
      | file text =>
          cases other with
          | nil => cases folder
          | cons name others => cases folder
      | folder outer =>
          cases other with
          | nil => exact ⟨_, rfl⟩
          | cons name others =>
              obtain ⟨_, next, same, held, below⟩ := exists_of_at?_cons folder
              cases same
              rw [putAt, at?, Folder.child?_setChild]
              by_cases here : name = first
              · subst here
                rw [if_pos rfl, held, Option.getD_some, Option.bind_some]
                refine ih (fun inner stands => apart inner ?_) below
                rw [at?, held, Option.bind_some, stands]
              · rw [if_neg here, held, Option.bind_some]
                exact ⟨children, below⟩

end FolderEntry

-----------------------------------------------------------------------------------------
-- Places
-----------------------------------------------------------------------------------------

/-- The address of a place: the names taken from the working folder to it. -/
def Place.address (place : Place) : List String := (place.passed.map Prod.snd).reverse

namespace Folder

/-- The working folder as an entry. -/
def entry (root : Folder) : FolderEntry := .folder root.children

/-- The places that are reached from the working folder by entering folders that stand there. -/
inductive Reached (root : Folder) : Place → Prop
  | top : Reached root root.top
  | enter {place : Place} {children : List (String × FolderEntry)} (here : Reached root place)
    (folder : place.entry = some (.folder children)) (name : String)
    : Reached root (enter place children name)

theorem address_top (root : Folder) : root.top.address = [] := rfl

theorem address_enter (place : Place) (children : List (String × FolderEntry)) (name : String)
    : (enter place children name).address = place.address ++ [name] := by
  simp [enter, Place.address]

namespace Reached

variable {root : Folder} {place : Place}

/-- What stands at a place is what stands at its address. -/
theorem entry_eq (reached : Reached root place) : place.entry = root.entry.at? place.address := by
  induction reached with
  | top => rfl
  | enter here folder name ih =>
      rw [address_enter, FolderEntry.at?_append, ← ih, folder]
      simp [Folder.enter, FolderEntry.at?]

/-- What is put at a place below the working folder is put at its address, by induction on how the
place is reached.
-/
theorem rebuild_eq (reached : Reached root place) (below : place.passed ≠ []) (new : FolderEntry)
    : (rebuild new place.passed).map FolderEntry.folder
      = some (FolderEntry.putAt new root.entry place.address) := by
  induction reached generalizing new with
  | top => exact absurd rfl below
  | @enter outer children here folder name ih =>
      have stands := folder
      rw [here.entry_eq] at stands
      rw [address_enter, FolderEntry.putAt_append stands]
      cases passed : outer.passed with
      | nil =>
          have top : outer.address = [] := by simp [Place.address, passed]
          simp [Folder.enter, passed, rebuild, top, FolderEntry.putAt]
      | cons holder before =>
          have outside : outer.passed ≠ [] := by simp [passed]
          have put := ih outside (.folder (setChild children name new))
          rw [passed] at put
          simp only [Folder.enter, passed, rebuild]
          exact put

theorem entry_put (reached : Reached root place) (below : place.passed ≠ []) (new : FolderEntry)
    : (root.put place new).entry = FolderEntry.putAt new root.entry place.address := by
  obtain ⟨children, rebuilt, same⟩ := Option.map_eq_some_iff.mp (reached.rebuild_eq below new)
  rw [entry, put, rebuilt, Option.getD_some, same]

end Reached

theorem leave_enter {place : Place} {outer : List (String × FolderEntry)}
    (folder : place.entry = some (.folder outer)) (name : String)
    (children : List (String × FolderEntry))
    : leave (enter place outer name) children
      = if name = "/" then enter place outer name
        else if name = ".." then enter (enter place outer name) children ".."
        else place := by
  simp only [leave, enter, ← folder]

theorem expectFolder_eq_ok {place : Place} {children : List (String × FolderEntry)}
    : expectFolder place = .ok children ↔ place.entry = some (.folder children) := by
  rw [expectFolder]
  split
  next inner stands => simp [stands]
  next text stands => simp [stands]
  next stands => simp [stands]

-----------------------------------------------------------------------------------------
-- The same path in two trees
-----------------------------------------------------------------------------------------

/-- Whether every folder of a tree of files is a folder of another one too. -/
def KeepsFolders (root other : Folder) : Prop :=
  ∀ address children, root.entry.at? address = some (.folder children)
    → ∃ inner, other.entry.at? address = some (.folder inner)

/-- Places with the same address, each reached in its own tree. -/
structure Twins (root other : Folder) (place twin : Place) : Prop where
  reached : Reached root place
  twinReached : Reached other twin
  address_eq : twin.address = place.address

namespace Twins

variable {root other : Folder} {place twin : Place} {children inner : List (String × FolderEntry)}

theorem enter (twins : Twins root other place twin)
    (folder : place.entry = some (.folder children))
    (twinFolder : twin.entry = some (.folder inner))
    (name : String)
    : Twins root other (Folder.enter place children name) (Folder.enter twin inner name) where
  reached := twins.reached.enter folder name
  twinReached := twins.twinReached.enter twinFolder name
  address_eq := by rw [address_enter, address_enter, twins.address_eq]

/-- Above places with the same address are places with the same address, since both were entered by
the same name.
-/
theorem leave (twins : Twins root other place twin)
    (folder : place.entry = some (.folder children))
    (twinFolder : twin.entry = some (.folder inner))
    : Twins root other (Folder.leave place children) (Folder.leave twin inner) := by
  have up := twins.enter folder twinFolder ".."
  obtain ⟨reached, twinReached, same⟩ := twins
  cases reached with
  | top =>
      cases twinReached with
      | top => exact up
      | enter _ _ _ => simp [address_enter, address_top] at same
  | @enter outer held here outside name =>
      cases twinReached with
      | top => simp [address_enter, address_top] at same
      | @enter twinOuter twinHeld there twinOutside twinName =>
          rw [address_enter, address_enter] at same
          obtain ⟨above, last⟩ := List.append_inj' same rfl
          cases last
          have outerTwins : Twins root other outer twinOuter := ⟨here, there, above⟩
          rw [leave_enter outside, leave_enter twinOutside]
          by_cases topmost : name = "/"
          · rw [if_pos topmost, if_pos topmost]
            exact outerTwins.enter outside twinOutside name
          · rw [if_neg topmost, if_neg topmost]
            by_cases outward : name = ".."
            · rw [if_pos outward, if_pos outward]
              exact up
            · rw [if_neg outward, if_neg outward]
              exact outerTwins

end Twins

section

variable {root other : Folder} (kept : KeepsFolders root other) {place twin next : Place}

include kept

theorem Twins.exists_folder (twins : Twins root other place twin)
    {children : List (String × FolderEntry)} (folder : place.entry = some (.folder children))
    : ∃ inner, twin.entry = some (.folder inner) := by
  rw [twins.reached.entry_eq] at folder
  obtain ⟨inner, stands⟩ := kept _ _ folder
  exact ⟨inner, by rw [twins.twinReached.entry_eq, twins.address_eq, stands]⟩

/-- A name leads from places with the same address to places with the same address. -/
theorem Twins.exists_step (twins : Twins root other place twin) {name : String}
    (stepped : step place name = .ok next)
    : ∃ after, step twin name = .ok after ∧ Twins root other next after := by
  rw [step] at stepped
  split at stepped
  next => cases stepped
  next children expected =>
    have folder := expectFolder_eq_ok.mp expected
    obtain ⟨inner, twinFolder⟩ := twins.exists_folder kept folder
    rw [step, expectFolder_eq_ok.mpr twinFolder]
    by_cases stays : name = "" ∨ name = "."
    · rw [if_pos stays] at stepped
      cases stepped
      exact ⟨twin, if_pos stays, twins⟩
    · rw [if_neg stays] at stepped
      by_cases outward : name = ".."
      · rw [if_pos outward] at stepped
        cases stepped
        exact ⟨_, by simp only [if_neg stays, if_pos outward], twins.leave folder twinFolder⟩
      · rw [if_neg outward] at stepped
        by_cases long : nameLimit < name.utf8ByteSize
        · rw [if_pos long] at stepped
          cases stepped
        · rw [if_neg long] at stepped
          cases stepped
          exact ⟨_, by simp only [if_neg stays, if_neg outward, if_neg long],
            twins.enter folder twinFolder name⟩

/-- Names lead from places with the same address to places with the same address, by induction on
the names.
-/
theorem Twins.exists_foldlM_step (twins : Twins root other place twin) {names : List String}
    (followed : names.foldlM step place = .ok next)
    : ∃ after, names.foldlM step twin = .ok after ∧ Twins root other next after := by
  induction names generalizing place twin with
  | nil =>
      cases followed
      exact ⟨twin, rfl, twins⟩
  | cons name rest ih =>
      rw [List.foldlM_cons] at followed
      cases stepped : step place name with
      | error e =>
          rw [stepped] at followed
          cases followed
      | ok middle =>
          rw [stepped] at followed
          obtain ⟨after, twinStepped, twins⟩ := twins.exists_step kept stepped
          obtain ⟨last, twinFollowed, twins⟩ := ih twins followed
          exact ⟨last, by rw [List.foldlM_cons, twinStepped]; exact twinFollowed, twins⟩

end

theorem Twins.top (root other : Folder) : Twins root other root.top other.top := ⟨.top, .top, rfl⟩

/-- Names lead to places that are reached, as a tree shows when it is compared with itself. -/
theorem reached_of_follow {root : Folder} {names : List String} {place : Place}
    (followed : root.follow names = .ok place)
    : Reached root place := by
  have kept : KeepsFolders root root := fun _ children stands => ⟨children, stands⟩
  obtain ⟨_, _, twins⟩ := (Twins.top root root).exists_foldlM_step kept followed
  exact twins.reached

-----------------------------------------------------------------------------------------
-- Writing and reading
-----------------------------------------------------------------------------------------

theorem partsFrom_ne_nil (current path : List Char) : partsFrom current path ≠ [] := by
  fun_induction partsFrom current path with
  | case1 current => simp
  | case2 current rest ih => simp
  | case3 current c rest notSlash ih => exact ih

/-- The last name of a path that does not end in a slash is not empty, unless the path is. -/
theorem getLast?_partsFrom_ne {current path : List Char} (nonempty : path ≠ [] ∨ current ≠ [])
    (ending : path.getLast? ≠ some '/')
    : (partsFrom current path).getLast? ≠ some "" := by
  fun_induction partsFrom current path with
  | case1 current => simpa using nonempty
  | case2 current rest ih =>
      cases rest with
      | nil => exact absurd rfl ending
      | cons c others =>
          rw [List.getLast?_cons_of_ne_nil (partsFrom_ne_nil [] (c :: others))]
          exact ih (.inl (by simp)) (by simpa using ending)
  | case3 current c rest notSlash ih =>
      refine ih (.inr (by simp)) ?_
      intro last
      cases rest with
      | nil => cases last
      | cons c others => exact ending (by simpa using last)

theorem getLast?_names_ne {path : String} (nonempty : path ≠ "")
    (ending : path.toList.getLast? ≠ some '/')
    : (names path).getLast? ≠ some "" := by
  have last : (partsFrom [] path.toList).getLast? ≠ some "" :=
    getLast?_partsFrom_ne (.inl (by simpa using nonempty)) ending
  rw [names]
  split
  next => rwa [List.getLast?_cons_of_ne_nil (partsFrom_ne_nil _ _)]
  next => exact last

/-- No name is trimmed from a path that does not end in a slash. -/
theorem trimmedNames_eq {path : String} (nonempty : path ≠ "")
    (ending : path.toList.getLast? ≠ some '/')
    : trimmedNames path = names path := by
  have last := getLast?_names_ne nonempty ending
  rw [← List.head?_reverse] at last
  cases reversed : (names path).reverse with
  | nil => rw [trimmedNames, reversed, List.dropWhile_nil, ← reversed, List.reverse_reverse]
  | cons name before =>
      have notEmpty : name ≠ "" := by
        rw [reversed] at last
        simpa using last
      rw [trimmedNames, reversed, List.dropWhile_cons_of_neg (by simpa using notEmpty),
        ← reversed, List.reverse_reverse]

theorem exists_of_writeIn {root next : Folder} {parent : Place}
    {children : List (String × FolderEntry)} {name text : String}
    (written : root.writeIn parent children name text = .ok next)
    : ¬ nameLimit < name.utf8ByteSize
      ∧ (∀ inner, child? children name ≠ some (.folder inner))
      ∧ next = root.put (enter parent children name) (.file text) := by
  rw [writeIn] at written
  split at written
  next => cases written
  next short =>
    dsimp only at written
    split at written
    next => cases written
    next apart =>
      cases written
      refine ⟨short, fun inner held => apart ?_, rfl⟩
      simp only [enter, held, Option.any_some, FolderEntry.isFolder]

/-- What a write that succeeds has found: the folder that is to hold the file, and no folder in the
file's place.
-/
theorem exists_of_write {root next : Folder} {path text : String}
    (written : root.write path text = .ok next)
    : ∃ (before : List String) (parent : Place) (children : List (String × FolderEntry))
          (name : String),
        checkPath path = .ok ()
        ∧ path ≠ ""
        ∧ names path = before ++ [name]
        ∧ root.follow before = .ok parent
        ∧ parent.entry = some (.folder children)
        ∧ step parent name = .ok (enter parent children name)
        ∧ (∀ inner, child? children name ≠ some (.folder inner))
        ∧ next = root.put (enter parent children name) (.file text) := by
  have nonempty : path ≠ "" := by
    intro empty
    rw [empty] at written
    cases written
  rw [write] at written
  split at written
  next => cases written
  next checked =>
    split at written
    next => cases written
    next name last =>
      split at written
      next => cases written
      next parent followed =>
        split at written
        next => cases written
        next children expected =>
          split at written
          next => cases written
          next named =>
            simp only [leadsUp, Bool.or_eq_true, decide_eq_true_eq, not_or] at named
            obtain ⟨⟨notIdle, notOutward, _⟩, ending⟩ := named
            rw [trimmedNames_eq nonempty ending] at last followed
            have notEmpty : name ≠ "" := by
              rintro rfl
              exact getLast?_names_ne nonempty ending last
            obtain ⟨before, split⟩ := List.getLast?_eq_some_iff.mp last
            rw [split, List.dropLast_concat] at followed
            obtain ⟨short, apart, stored⟩ := exists_of_writeIn written
            refine ⟨before, parent, children, name, checked, nonempty, split, followed,
              expectFolder_eq_ok.mp expected, ?_, apart, stored⟩
            rw [step, expected]
            simp only [notEmpty, notIdle, notOutward, short, or_self, if_false]

/-- What has been written at a path is read there: the names of the path lead to the place where the
file was put, since no folder on the way has gone.
-/
theorem read_of_write {root next : Folder} {path text : String}
    (written : root.write path text = .ok next)
    : next.read path = .ok text := by
  obtain ⟨before, parent, children, name, checked, nonempty, split, followed, folder, stepped,
    apart, rfl⟩ := exists_of_write written
  have reached := reached_of_follow followed
  have place := reached.enter folder name
  have put := place.entry_put (by simp [enter]) (.file text)
  have kept : KeepsFolders root (root.put (enter parent children name) (.file text)) := by
    intro address inner stands
    rw [put]
    refine FolderEntry.exists_at?_putAt _ (fun inner stands => apart inner ?_) stands
    rw [← place.entry_eq] at stands
    exact stands
  have all : root.follow (names path) = .ok (enter parent children name) := by
    rw [split, follow, List.foldlM_append, ← follow, followed]
    simp only [List.foldlM_cons, List.foldlM_nil, bind_pure]
    exact stepped
  obtain ⟨after, twinFollowed, twins⟩ := (Twins.top root _).exists_foldlM_step kept all
  have stands : after.entry = some (.file text) := by
    rw [reached.entry_eq] at folder
    rw [twins.twinReached.entry_eq, twins.address_eq, put, address_enter]
    exact FolderEntry.at?_putAt folder (.file text) name
  have located : (root.put (enter parent children name) (.file text)).locate path
      = .ok (.file text) := by
    rw [locate, checked]
    simp only [if_neg nonempty]
    rw [follow, twinFollowed]
    simp only [stands]
  rw [read, located]

theorem read_of_writeWithParents {root next : Folder} {path text : String}
    (written : root.writeWithParents path text = (next, .ok ()))
    : next.read path = .ok text := by
  rw [writeWithParents] at written
  split at written
  next => cases written
  next made _ =>
    split at written
    next => cases written
    next result stored =>
      cases written
      exact read_of_write stored

end Folder

end Backchain
