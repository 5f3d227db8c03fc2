/-! Where settings are kept: a path from the environment, or a default one below the directory for
settings.
-/

namespace Backchain

namespace Path

/-- A path followed by another. An absolute path stands for itself; no second separator is written
after one that is there.
-/
def join (base next : String) : String :=
  if next.toList.head? = some '/' then next
  else if base.toList.getLast?.all (fun c => c = '/') then base ++ next
  else base ++ "/" ++ next

end Path

/-- The variables of the environment that name a place for settings. -/
structure Environment where
  settingsPath : Option String := none
  configHome : Option String := none
  home : Option String := none
deriving DecidableEq, Inhabited

namespace Environment

/-- The directory for settings: the one that is named, else one below the home directory. -/
def settingsFolder (env : Environment) : String :=
  match env.configHome, env.home with
  | some folder, _ => folder
  | none, some home => Path.join home ".config"
  | none, none => ""

/-- The path of the settings. -/
def settingsFile (env : Environment) : String :=
  match env.settingsPath with
  | some path => path
  | none => Path.join (Path.join env.settingsFolder "jdsolve") "solve.toml"

end Environment

end Backchain
