import Precedence.Settings.Search
import Mathlib.Data.List.Infix

/-!
# The nearest settings

The search for settings goes through a directory and those above it, up to the root.  At each of them it stops if there
is an entry of the fixed name (`searchUp_cases`).  So it finds the deepest one with such an entry, and nothing exactly
if there is none (`findSettings?_nearest`).
-/

namespace Precedence.FileSystem

/-- There is an entry with settings in the directory. -/
def HasSettings (system : FileSystem) (directory : Path) : Prop := system.contains (directory ++ [settingsName])

/-- Of a directory and those above it, this is the deepest one with settings. -/
structure IsNearest (system : FileSystem) (base directory : Path) : Prop where
  above : directory <+: base
  hasSettings : system.HasSettings directory
  deepest : ∀ other, other <+: base → system.HasSettings other → other.length ≤ directory.length

/-- The files and the named directories. -/
def entries (system : FileSystem) : List Path := system.files.map Prod.fst ++ system.directories

/-- No entry lies below a file. -/
def IsTree (system : FileSystem) : Prop :=
  ∀ path, system.isFile path → ∀ entry ∈ system.entries, path <+: entry → entry = path

variable {system : FileSystem} {base directory : Path}

theorem IsNearest.unique {other : Path} (h : system.IsNearest base directory) (hother : system.IsNearest base other) :
    directory = other := by
  have hlength : directory.length = other.length :=
    Nat.le_antisymm (hother.deepest _ h.above h.hasSettings) (h.deepest _ hother.above hother.hasSettings)
  have hprefix : directory <+: other := List.prefix_of_prefix_length_le h.above hother.above hlength.le
  exact hprefix.eq_of_length hlength

/-- What lies on the way to a directory is the directory itself, or on the way to the one above it. -/
theorem prefix_iff_of_ne_nil (hne : directory ≠ []) (other : Path) :
    other <+: directory ↔ other = directory ∨ other <+: directory.dropLast := by
  have h : other <+: directory.dropLast ++ [directory.getLast hne] ↔
      other = directory.dropLast ++ [directory.getLast hne] ∨ other <+: directory.dropLast := List.prefix_concat_iff
  rwa [List.dropLast_concat_getLast] at h

/-- A directory with settings is the nearest one to itself. -/
theorem HasSettings.isNearest (h : system.HasSettings directory) : system.IsNearest directory directory :=
  ⟨List.prefix_rfl, h, fun _ hother _ => hother.length_le⟩

/-- The nearest settings to a directory without settings are those nearest to the one above it. -/
theorem IsNearest.of_dropLast (hnone : ¬ system.HasSettings base) (hne : base ≠ [])
    (h : system.IsNearest base.dropLast directory) : system.IsNearest base directory := by
  refine ⟨(prefix_iff_of_ne_nil hne directory).mpr (.inr h.above), h.hasSettings, fun other hother hsettings => ?_⟩
  rcases (prefix_iff_of_ne_nil hne other).mp hother with rfl | habove
  · exact absurd hsettings hnone
  · exact h.deepest other habove hsettings

/-- The search ends at the nearest settings, or it finds nothing as there are none. -/
theorem searchUp_cases (system : FileSystem) (base : Path) :
    (∃ directory, system.IsNearest base directory ∧ system.searchUp base = some (directory ++ [settingsName])) ∨
      (∀ directory, directory <+: base → ¬ system.HasSettings directory) ∧ system.searchUp base = none := by
  fun_induction searchUp system base with
  | case1 base hfound =>
    have hsettings : system.HasSettings base := hfound
    exact .inl ⟨base, hsettings.isNearest, rfl⟩
  | case2 hnone =>
    refine .inr ⟨fun directory habove => ?_, rfl⟩
    rw [List.prefix_nil.mp habove]
    exact hnone
  | case3 base hnone hne ih =>
    rcases ih with ⟨directory, hnearest, hfound⟩ | ⟨hmissing, hfound⟩
    · exact .inl ⟨directory, hnearest.of_dropLast hnone hne, hfound⟩
    · refine .inr ⟨fun directory habove => ?_, hfound⟩
      rcases (prefix_iff_of_ne_nil hne directory).mp habove with rfl | habove
      · exact hnone
      · exact hmissing directory habove

/-- What there is lies on the way to an entry, or it is the root. -/
theorem exists_entry_of_contains {path : Path} (h : system.contains path) :
    path = [] ∨ ∃ entry ∈ system.entries, path <+: entry := by
  have hread : ∀ contents, system.files.lookup path = some contents → (path, contents) ∈ system.files := by
    intro contents hlookup
    obtain ⟨before, after, hfiles, -⟩ := List.lookup_eq_some_iff.mp hlookup
    simp [hfiles]
  simp only [contains, isDirectory, Bool.or_eq_true, Bool.and_eq_true, List.isEmpty_iff, List.any_eq_true,
    List.isPrefixOf_iff_prefix] at h
  rcases h with hfile | ⟨-, (hroot | ⟨entry, hmem, hprefix⟩) | ⟨⟨entry, contents⟩, hmem, hprefix⟩⟩
  · obtain ⟨contents, hcontents⟩ := Option.isSome_iff_exists.mp hfile
    exact .inr ⟨path, List.mem_append_left _ (List.mem_map.mpr ⟨_, hread contents hcontents, rfl⟩), List.prefix_rfl⟩
  · exact .inl hroot
  · exact .inr ⟨entry, List.mem_append_right _ hmem, hprefix⟩
  · exact .inr ⟨entry, List.mem_append_left _ (List.mem_map.mpr ⟨_, hmem, rfl⟩), hprefix⟩

/-- Where there are settings, there is a directory. -/
theorem HasSettings.isDirectory (h : system.HasSettings directory) (htree : system.IsTree) :
    system.isDirectory directory := by
  rcases exists_entry_of_contains h with hroot | ⟨entry, hmem, hprefix⟩
  · simp at hroot
  have habove : directory <+: entry := (List.prefix_append _ _).trans hprefix
  have hfile : ¬ system.isFile directory := by
    intro hfile
    have hlength := hprefix.length_le
    rw [htree directory hfile entry hmem habove, List.length_append, List.length_singleton] at hlength
    omega
  simp only [FileSystem.isDirectory, hfile, Bool.not_false, Bool.true_and, Bool.or_eq_true, List.any_eq_true,
    List.isPrefixOf_iff_prefix]
  rcases List.mem_append.mp hmem with hmem | hmem
  · obtain ⟨file, hfile, rfl⟩ := List.mem_map.mp hmem
    exact .inr ⟨file, hfile, habove⟩
  · exact .inl (.inr ⟨entry, hmem, habove⟩)

/-- The settings for a place are those in the deepest directory that has an entry of the fixed name, among the base and
the directories above it up to the root.  The base is the place itself, or where it lies if it is a file; the place need
not exist.  Nothing is found exactly if there is no such directory. -/
theorem findSettings?_nearest (system : FileSystem) (start : Path) :
    let base := if system.isFile start then start.dropLast else start
    (∀ found, system.findSettings? start = some found ↔
        ∃ directory, system.IsNearest base directory ∧ found = directory ++ [settingsName]) ∧
      (system.findSettings? start = none ↔ ∀ directory, directory <+: base → ¬ system.HasSettings directory) ∧
      (system.IsTree → ∀ directory, system.IsNearest base directory → system.isDirectory directory) := by
  intro base
  have hfind : system.findSettings? start = system.searchUp base := rfl
  rw [hfind]
  refine ⟨fun found => ?_, ?_, fun htree directory hnearest => hnearest.hasSettings.isDirectory htree⟩
  all_goals rcases searchUp_cases system base with ⟨nearest, hnearest, hsearch⟩ | ⟨hmissing, hsearch⟩
  all_goals rw [hsearch]
  · constructor
    · rintro ⟨⟩
      exact ⟨nearest, hnearest, rfl⟩
    · rintro ⟨directory, hdirectory, rfl⟩
      rw [hnearest.unique hdirectory]
  · refine iff_of_false nofun ?_
    rintro ⟨directory, hdirectory, -⟩
    exact hmissing directory hdirectory.above hdirectory.hasSettings
  · exact iff_of_false nofun fun hmissing => hmissing nearest hnearest.above hnearest.hasSettings
  · exact iff_of_true rfl hmissing

end Precedence.FileSystem
