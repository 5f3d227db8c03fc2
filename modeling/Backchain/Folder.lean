/-! Folders: a tree of files around a working folder, reached by paths. -/

namespace Backchain

/-- Why a file cannot be read or written. -/
inductive StorageError where
  | notFound
  | isADirectory
  | notADirectory
  | alreadyExists
  | storageFull
  | invalidPath
  | nameTooLong
deriving DecidableEq

/-- What stands at a place: a file with its text, or a folder with what it holds by name. -/
inductive FolderEntry where
  | file (text : String)
  | folder (children : List (String × FolderEntry))

/-- A tree of files, held as what the working folder holds. The name `..` in a folder leads to the
one above it, and the name `/` to the topmost folder; both are always there.
-/
structure Folder where
  children : List (String × FolderEntry) := []
deriving Inhabited

/-- A place that names have led to: the folders passed, each with the name taken there, nearest
first, and what stands at the place.
-/
structure Place where
  passed : List (List (String × FolderEntry) × String) := []
  entry : Option FolderEntry

namespace FolderEntry

/-- Whether an entry is a folder. -/
def isFolder : FolderEntry → Bool
  | .file _ => false
  | .folder _ => true

end FolderEntry

namespace Folder

-----------------------------------------------------------------------------------------
-- Places
-----------------------------------------------------------------------------------------

/-- The most bytes in a name. -/
def nameLimit : Nat := 255

/-- The most bytes in a path. -/
def pathLimit : Nat := 4095

/-- Whether a name leads away from the working folder. -/
def leadsUp (name : String) : Bool := name = ".." || name = "/"

/-- What a folder holds under a name. -/
def child? (children : List (String × FolderEntry)) (name : String) : Option FolderEntry :=
  match children.lookup name with
  | some entry => some entry
  | none => if leadsUp name then some (.folder []) else none

/-- What a folder holds after an entry is put under a name. -/
def setChild (children : List (String × FolderEntry)) (name : String) (entry : FolderEntry)
    : List (String × FolderEntry) :=
  (name, entry) :: children.filter (fun other => other.1 ≠ name)

/-- The working folder as a place. -/
def top (root : Folder) : Place := { entry := some (.folder root.children) }

/-- The place under a name in a folder at a place. -/
def enter (place : Place) (children : List (String × FolderEntry)) (name : String) : Place :=
  { passed := (children, name) :: place.passed, entry := child? children name }

/-- The place above a folder at a place. Nothing lies above the topmost folder. -/
def leave (place : Place) (children : List (String × FolderEntry)) : Place :=
  match place.passed with
  | [] => enter place children ".."
  | (outer, name) :: before =>
      if name = "/" then place
      else if name = ".." then enter place children ".."
      else { passed := before, entry := some (.folder outer) }

/-- What stands at a place that must be a folder. -/
def expectFolder (place : Place) : Except StorageError (List (String × FolderEntry)) :=
  match place.entry with
  | some (.folder children) => .ok children
  | some (.file _) => .error .notADirectory
  | none => .error .notFound

/-- The place that a name leads to from a folder. -/
def step (place : Place) (name : String) : Except StorageError Place :=
  match expectFolder place with
  | .error e => .error e
  | .ok children =>
      if name = "" ∨ name = "." then .ok place
      else if name = ".." then .ok (leave place children)
      else if nameLimit < name.utf8ByteSize then .error .nameTooLong
      else .ok (enter place children name)

/-- The place that names lead to from the working folder. -/
def follow (root : Folder) (names : List String) : Except StorageError Place :=
  names.foldlM step root.top

/-- What the working folder holds after an entry is put at the end of the names passed. -/
def rebuild (entry : FolderEntry)
    : List (List (String × FolderEntry) × String) → Option (List (String × FolderEntry))
  | [] => none
  | [(children, name)] => some (setChild children name entry)
  | (children, name) :: before => rebuild (.folder (setChild children name entry)) before

/-- The tree with an entry put at a place below the working folder. -/
def put (root : Folder) (place : Place) (entry : FolderEntry) : Folder :=
  ⟨(rebuild entry place.passed).getD root.children⟩

-----------------------------------------------------------------------------------------
-- Paths
-----------------------------------------------------------------------------------------

/-- The texts between the slashes of a path, given the characters of the current one in reverse. -/
def partsFrom (current : List Char) : List Char → List String
  | [] => [String.ofList current.reverse]
  | '/' :: rest => String.ofList current.reverse :: partsFrom [] rest
  | c :: rest => partsFrom (c :: current) rest

/-- The names in a path. A slash at its front leads to the topmost folder. -/
def names (path : String) : List String :=
  let parts := partsFrom [] path.toList
  if path.toList.head? = some '/' then "/" :: parts else parts

/-- The names in a path without the empty ones at its end. -/
def trimmedNames (path : String) : List String :=
  ((names path).reverse.dropWhile (fun name => name = "")).reverse

/-- The names in a path that lead from one entry to another. -/
def properNames (path : String) : List String :=
  (names path).filter (fun name => name ≠ "" ∧ name ≠ ".")

/-- Checks that a path can be looked up at all: it holds no null character and is not too long. -/
def checkPath (path : String) : Except StorageError Unit :=
  if path.toList.contains '\x00' then .error .invalidPath
  else if pathLimit < path.utf8ByteSize then .error .nameTooLong
  else .ok ()

/-- The path of the folder that holds the entry at a path. -/
def parentPath (path : String) : String :=
  let isIdle (name : String) : Bool := name = "" || name = "."
  let before := ((partsFrom [] path.toList).reverse.dropWhile isIdle).drop 1
  "/".intercalate (before.dropWhile isIdle).reverse

-----------------------------------------------------------------------------------------
-- Reading and writing
-----------------------------------------------------------------------------------------

/-- The entry that a path leads to. The empty path leads nowhere. -/
def locate (root : Folder) (path : String) : Except StorageError FolderEntry :=
  match checkPath path with
  | .error e => .error e
  | .ok () =>
      if path = "" then .error .notFound
      else
        match root.follow (names path) with
        | .error e => .error e
        | .ok place =>
            match place.entry with
            | some entry => .ok entry
            | none => .error .notFound

/-- Whether a path leads to an entry. -/
def contains (root : Folder) (path : String) : Bool := (root.locate path).toOption.isSome

/-- The text of a file. -/
def read (root : Folder) (path : String) : Except StorageError String :=
  match root.locate path with
  | .error e => .error e
  | .ok (.folder _) => .error .isADirectory
  | .ok (.file text) => .ok text

/-- Writes a file in a folder that is there, over any text it has. -/
def writeIn (root : Folder) (parent : Place) (children : List (String × FolderEntry))
    (name text : String) : Except StorageError Folder :=
  if nameLimit < name.utf8ByteSize then .error .nameTooLong
  else
    let place := enter parent children name
    if place.entry.any FolderEntry.isFolder then .error .isADirectory
    else .ok (root.put place (.file text))

/-- Writes a file, over any text it has. The folder that holds it must be there. A path with a slash
at its end names a folder, whether there is one or not.
-/
def write (root : Folder) (path text : String) : Except StorageError Folder :=
  match checkPath path with
  | .error e => .error e
  | .ok () =>
      match (trimmedNames path).getLast? with
      | none => .error .notFound
      | some name =>
          match root.follow (trimmedNames path).dropLast with
          | .error e => .error e
          | .ok parent =>
              match expectFolder parent with
              | .error e => .error e
              | .ok children =>
                  if name = "." || leadsUp name || path.toList.getLast? = some '/' then
                    .error .isADirectory
                  else root.writeIn parent children name text

-----------------------------------------------------------------------------------------
-- Making folders
-----------------------------------------------------------------------------------------

/-- Makes one folder in a folder that is there. -/
def makeFolder (root : Folder) (names : List String) : Except StorageError Folder :=
  match root.follow names with
  | .error e => .error e
  | .ok place =>
      match place.entry with
      | some _ => .error .alreadyExists
      | none => .ok (root.put place (.folder []))

/-- Whether names lead to a folder. -/
def isFolder (root : Folder) (names : List String) : Bool :=
  match root.follow names with
  | .ok place => place.entry.any FolderEntry.isFolder
  | .error _ => false

/-- Makes one folder in a folder that is there, unless it is there itself. -/
def ensureFolder (root : Folder) (names : List String) : Folder × Except StorageError Unit :=
  match root.makeFolder names with
  | .ok made => (made, .ok ())
  | .error e => (root, if root.isFolder names then .ok () else .error e)

/-- Makes one folder, after what is to hold it if that is not there. What has been made stays if the
folder cannot be made.
-/
def ensureFolderAfter (root : Folder) (names : List String)
    (makeHolder : Folder → Folder × Except StorageError Unit)
    : Folder × Except StorageError Unit :=
  match root.makeFolder names with
  | .error .notFound =>
      match makeHolder root with
      | (made, .ok ()) => made.ensureFolder names
      | failed => failed
  | _ => root.ensureFolder names

/-- Makes the folder that names lead to, given in reverse, and those that it needs. -/
def makeFoldersReversed : List String → Folder → Folder × Except StorageError Unit
  | [], root => (root, .ok ())
  | last :: before, root =>
      root.ensureFolderAfter (last :: before).reverse (makeFoldersReversed before)

/-- Makes the folders that lead to the entry at a path. -/
def makeHolders (path : String) (root : Folder) : Folder × Except StorageError Unit :=
  makeFoldersReversed (properNames path).dropLast.reverse root

/-- Makes the folder at a path and those that it needs. -/
def makeFolders (root : Folder) (path : String) : Folder × Except StorageError Unit :=
  match checkPath path with
  | .error e => (root, .error e)
  | .ok () =>
      if path = "" then (root, .ok ())
      else root.ensureFolderAfter (trimmedNames path) (makeHolders path)

/-- Makes the folder that is to hold the file at a path, and those that it needs. -/
def makeParents (root : Folder) (path : String) : Folder × Except StorageError Unit :=
  match checkPath (parentPath path) with
  | .error e => (root, .error e)
  | .ok () => makeHolders path root

/-- Writes a file after making the folders that it needs. -/
def writeWithParents (root : Folder) (path text : String) : Folder × Except StorageError Unit :=
  match root.makeParents path with
  | (made, .error e) => (made, .error e)
  | (made, .ok ()) =>
      match made.write path text with
      | .error e => (made, .error e)
      | .ok written => (written, .ok ())

end Folder

end Backchain
