import Precedence.Settings.Path

/-!
# Finding the settings

The settings that apply to a place are those in the nearest directory, from the place upwards, that has an entry of the
fixed name.
-/

namespace Precedence

/-- The name of an entry with settings. -/
def settingsName : String := "pratt.toml"

/-- What is said if no directory has settings. -/
def noSettingsMessage : String := "No " ++ settingsName ++ " found in any parent directory"

/-- The entry with settings in the directory or in the nearest one above it. -/
def FileSystem.searchUp (system : FileSystem) (directory : Path) : Option Path :=
  if system.contains (directory ++ [settingsName]) then some (directory ++ [settingsName])
  else if _h : directory = [] then none
  else system.searchUp directory.dropLast
termination_by directory.length
decreasing_by
  have := List.length_pos_iff.2 _h
  simp; omega

/-- The entry with the settings for a place.  For a file the search starts where the file is. -/
def FileSystem.findSettings? (system : FileSystem) (start : Path) : Option Path :=
  system.searchUp (if system.isFile start then start.dropLast else start)

end Precedence
