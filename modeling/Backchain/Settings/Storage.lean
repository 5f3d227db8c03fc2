import Backchain.Folder
import Backchain.Log
import Backchain.Settings.Format
import Backchain.Settings.Location

/-! Loading settings from a folder and saving them there. -/

namespace Backchain

/-- Why settings cannot be loaded. -/
inductive LoadError (Cause : Type) where
  | storage (cause : StorageError)
  | unreadable (file : String) (cause : Cause)
deriving DecidableEq

/-- Why settings cannot be saved. -/
inductive SaveError (Cause : Type) where
  | unprintable (file : String) (cause : Cause)
  | storage (cause : StorageError)
deriving DecidableEq

namespace Settings

section

variable {Cause : Type} (format : SettingsFormat Cause)

/-- Reads settings from a text that is not kept in a file. -/
def ofText (text : String) : Except (LoadError Cause) Settings :=
  (format.read text).mapError (.unreadable "<string>")

/-- Loads the settings at a path. -/
def load (root : Folder) (path : String) : Except (LoadError Cause) Settings :=
  match root.read path with
  | .error e => .error (.storage e)
  | .ok text => (format.read text).mapError (.unreadable path)

/-- Saves settings at a path, making the folders that it needs. Nothing is made for settings that
cannot be printed.
-/
def save (settings : Settings) (root : Folder) (path : String)
    : Folder × Except (SaveError Cause) Unit :=
  match format.print settings with
  | .error e => (root, .error (.unprintable path e))
  | .ok text =>
      match root.writeWithParents path text with
      | (next, result) => (next, result.mapError .storage)

/-- Loads the settings that the environment points to, or the defaults if there are none. -/
def loadOrDefault (root : Folder) (env : Environment) : Except (LoadError Cause) Settings :=
  if root.contains env.settingsFile then load format root env.settingsFile else .ok {}

end

/-- What is logged while the settings of an environment are loaded. -/
def loadOrDefaultRecords (root : Folder) (env : Environment) : List Log.Record :=
  if root.contains env.settingsFile then []
  else
    [⟨.debug, "No solver configuration at `" ++ env.settingsFile ++ "`, using defaults"⟩]

end Settings

end Backchain
