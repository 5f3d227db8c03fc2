/-! The settings of the solver and their names. -/

namespace Backchain

/-- The settings of the solver: the depth bound of a search, the number of rules it may try, and the
width within which proofs are printed.
-/
structure Settings where
  depthBound : Nat := 5
  attemptBudget : Option Nat := none
  renderWidth : Nat := 80
deriving DecidableEq, Inhabited

/-- Values that replace some of the settings. -/
structure Overrides where
  depthBound : Option Nat := none
  attemptBudget : Option Nat := none
  renderWidth : Option Nat := none
deriving DecidableEq, Inhabited

/-- The settings that a document can assign. -/
inductive SettingsKey where
  | depthBound
  | attemptBudget
  | renderWidth
deriving DecidableEq

namespace SettingsKey

/-- The key of a setting in documents. -/
def name : SettingsKey → String
  | .depthBound => "depth_bound"
  | .attemptBudget => "attempt_budget"
  | .renderWidth => "render_width"

/-- All keys, in the order in which settings are written. -/
def all : List SettingsKey := [.depthBound, .attemptBudget, .renderWidth]

/-- The setting with a key, if there is one. -/
def ofName? (name : String) : Option SettingsKey := all.find? (fun key => key.name = name)

end SettingsKey

namespace Overrides

/-- The value that replaces a setting, if there is one. -/
def get (overrides : Overrides) : SettingsKey → Option Nat
  | .depthBound => overrides.depthBound
  | .attemptBudget => overrides.attemptBudget
  | .renderWidth => overrides.renderWidth

/-- The overrides with the value of one setting changed. -/
def set (overrides : Overrides) (key : SettingsKey) (value : Option Nat) : Overrides :=
  match key with
  | .depthBound => { overrides with depthBound := value }
  | .attemptBudget => { overrides with attemptBudget := value }
  | .renderWidth => { overrides with renderWidth := value }

end Overrides

namespace Settings

/-- The value of a setting. Only an attempt budget can be missing. -/
def get (settings : Settings) : SettingsKey → Option Nat
  | .depthBound => some settings.depthBound
  | .attemptBudget => settings.attemptBudget
  | .renderWidth => some settings.renderWidth

/-- The settings with some of them replaced. -/
def override (settings : Settings) (overrides : Overrides) : Settings where
  depthBound := overrides.depthBound.getD settings.depthBound
  attemptBudget := overrides.attemptBudget.or settings.attemptBudget
  renderWidth := overrides.renderWidth.getD settings.renderWidth

end Settings

end Backchain
