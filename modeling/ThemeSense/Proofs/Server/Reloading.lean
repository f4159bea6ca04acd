import Mathlib.Data.List.Find
import ThemeSense.Proofs.Theme.Discovery
import ThemeSense.Server.Session

namespace ThemeSense

/-- All places where a config for a document is looked for are directories, the roots among them. -/
theorem configsFor_eq (roots : List Path) (document : Path) :
    ∃ directories : List Path, configsFor roots document = (directories ++ roots).flatMap configsIn := by
  cases above : document.parent? with
  | none => exact ⟨[], by simp [configsFor, above]⟩
  | some up => exact ⟨directoriesUp (innermostRoot? roots document) up,
      by simp [configsFor, above, configsFrom, List.flatMap_append]⟩

theorem directoriesUp_head (boundary : Option Path) (directory : Path) :
    ∃ above, directoriesUp boundary directory = directory :: above := by
  rw [directoriesUp]
  split
  · exact ⟨[], rfl⟩
  · split
    · exact ⟨[], rfl⟩
    · exact ⟨_, rfl⟩

namespace Disk

variable {disk : Disk} {roots : List Path} {directory document path : Path}

theorem configIn?_eq (disk : Disk) (directory : Path) : disk.configIn? directory =
    (configNames.find? fun name => disk.isFile (directory.join name)).map directory.join :=
  List.find?_map

/-- Whatever directories are searched, what is found is the preferred config of one of them. -/
theorem configIn?_of_find? {directories : List Path}
    (found : (directories.flatMap configsIn).find? disk.isFile = some path) :
    ∃ directory, disk.configIn? directory = some path := by
  rw [List.find?_flatMap] at found
  obtain ⟨directory, _, first⟩ := List.exists_of_findSome?_eq_some found
  exact ⟨directory, first⟩

theorem configIn?_of_configFor? (found : disk.configFor? roots document = some path) :
    ∃ directory, disk.configIn? directory = some path := by
  obtain ⟨directories, all⟩ := configsFor_eq roots document
  rw [configFor?, all] at found
  exact configIn?_of_find? found

/-- A document for which there is no config leaves none for the workspace either. -/
theorem workspaceConfig?_of_configFor? (none : disk.configFor? roots document = none) :
    disk.workspaceConfig? roots = Option.none := by
  rw [configFor?, configsFor, List.find?_append, Option.or_eq_none_iff] at none
  exact none.2

/-- The search for the config of a config starts in its own directory. -/
theorem configFor?_of_configIn? {again : Path} (above : path.parent? = some directory)
    (found : disk.configIn? directory = some again) : disk.configFor? roots path = some again := by
  obtain ⟨others, starts⟩ := directoriesUp_head (innermostRoot? roots path) directory
  rw [configFor?, configsFor, above, Option.map_some, Option.getD_some, configsFrom, starts, List.flatMap_cons,
    List.append_assoc, List.find?_append, show (configsIn directory).find? disk.isFile = some again from found]
  rfl

/-- A config that was found is found again when it is looked for where it is. -/
theorem SkipsIdle.configFor? (skips : disk.SkipsIdle) (found : disk.configIn? directory = some path)
    (roots : List Path) : ∃ again, disk.configFor? roots path = some again ∧
      again.components = path.components ∧ disk again = disk path := by
  rw [configIn?_eq, Option.map_eq_some_iff] at found
  obtain ⟨name, first, rfl⟩ := found
  have named := not_idle_of_configName (List.mem_of_find?_eq_some first)
  have same : configNames.find? (fun other => disk.isFile (directory.tidy.join other)) = some name := by
    rw [← first]
    refine List.find?_congr fun other member => ?_
    rw [isFile, isFile, skips.tidy_join directory (not_idle_of_configName member)]
  have again : disk.configIn? directory.tidy = some (directory.tidy.join name) := by
    rw [configIn?_eq, same, Option.map_some]
  exact ⟨directory.tidy.join name, configFor?_of_configIn? (directory.parent?_join named) again,
    directory.components_tidy_join named, skips.tidy_join directory named⟩

/-- The config for a document, or without one that of the workspace. -/
def sought? (disk : Disk) (roots : List Path) (document : Option Path) : Option Path :=
  document.elim (disk.workspaceConfig? roots) (disk.configFor? roots)

theorem configIn?_of_sought? {document : Option Path} (found : disk.sought? roots document = some path) :
    ∃ directory, disk.configIn? directory = some path := by
  cases document with
  | none => exact configIn?_of_find? found
  | some document => exact configIn?_of_configFor? found

theorem workspaceConfig?_of_sought? {document : Option Path} (none : disk.sought? roots document = none) :
    disk.workspaceConfig? roots = Option.none := by
  cases document with
  | none => exact none
  | some document => exact workspaceConfig?_of_configFor? none

/-- What is sought from where it was found is found there, and without a find there is none again. -/
theorem SkipsIdle.sought? (skips : disk.SkipsIdle) (roots : List Path) (document : Option Path) :
    let found := disk.sought? roots document
    (disk.sought? roots found).map Path.components = found.map Path.components ∧
      (disk.sought? roots found).map disk = found.map disk := by
  intro found
  cases here : found with
  | none =>
    have none : disk.sought? roots Option.none = Option.none := workspaceConfig?_of_sought? here
    simp [none]
  | some path =>
    obtain ⟨directory, first⟩ := configIn?_of_sought? here
    obtain ⟨again, same, components, content⟩ := skips.configFor? first roots
    have sought : disk.sought? roots (some path) = some again := same
    simp [sought, components, content]

end Disk

namespace Session

variable {disk : Disk}

theorem loadTheme_snd (path : Path) :
    (loadTheme disk (some path)).2 = (disk.loadTheme path).toOption.getD .empty := by
  rw [loadTheme]
  cases disk.loadTheme path <;> rfl

/-- The theme of a config depends on nothing but what is read. -/
theorem loadTheme_congr {config other : Option Path} (same : config.map disk = other.map disk) :
    (loadTheme disk config).2 = (loadTheme disk other).2 := by
  cases config with
  | none =>
    cases Option.map_eq_none_iff.mp same.symm
    rfl
  | some path =>
    obtain ⟨other, rfl, content⟩ := Option.map_eq_some_iff.mp same.symm
    have readText : disk.readText path = disk.readText other := by rw [Disk.readText, Disk.readText, content]
    rw [loadTheme_snd, loadTheme_snd, Disk.loadTheme, Disk.loadTheme, Disk.isFile, Disk.isFile, content, readText]
    cases (disk path).toBool <;> rfl

theorem reload_snd (session : Session) (document : Option Path) : (session.reload disk document).2 =
    { session with
      theme := (loadTheme disk (disk.sought? session.roots document)).2
      config := disk.sought? session.roots document } := by
  cases document <;> rfl

theorem refresh_snd (session : Session) :
    (session.refresh disk).2 = ((session.reload disk session.config).2.answerColors .all).2 :=
  rfl

/-- A theme stays as it is when it is loaded again from an unchanged disk. The config is found again
where it is, or again there is none, and nothing changes but that the theme is asked for all colors. -/
theorem refresh_stable (disk : Disk) (skips : disk.SkipsIdle) (session : Session) (document : Option Path) :
    let reloaded := (session.reload disk document).2
    ∃ again : Option Path, again.map Path.components = reloaded.config.map Path.components ∧
      (reloaded.reload disk reloaded.config).2 = { reloaded with config := again } ∧
      (reloaded.refresh disk).2 = { (reloaded.answerColors .all).2 with config := again } := by
  intro reloaded
  obtain ⟨components, content⟩ := skips.sought? session.roots document
  have found : reloaded = { session with
      theme := (loadTheme disk (disk.sought? session.roots document)).2
      config := disk.sought? session.roots document } := reload_snd session document
  have reload : (reloaded.reload disk reloaded.config).2 = { reloaded with
      config := disk.sought? session.roots (disk.sought? session.roots document) } := by
    rw [reload_snd, found]
    simp only [loadTheme_congr content]
  refine ⟨_, ?_, reload, ?_⟩
  · rw [found]
    exact components
  · rw [refresh_snd, reload]
    rfl

/-- A config that only a root of the workspace leads to is found again on the way up from itself. -/
theorem refresh_stable_from_root :
    let name := "europa.config.cjs".toList
    let script := "module.exports = \x7b theme: \x7b colors: \x7b brand: '#0af' \x7d \x7d \x7d".toUTF8
    let disk := (FileTree.empty.write ["w".toList, name] script).disk []
    let session := { Session.start with roots := [Path.ofText "/w/app", Path.ofText "/w//"] }
    let reloaded := (session.reload disk (some (Path.ofText "/x/y.css"))).2
    disk.SkipsIdle ∧ reloaded.config = some (Path.ofText "/w//europa.config.cjs") ∧
      (reloaded.refresh disk).2.config.map Path.components = some ["/".toList, "w".toList, name] ∧
      (reloaded.refresh disk).2.theme = (reloaded.answerColors .all).2.theme := by
  intro name script disk session reloaded
  have skips : disk.SkipsIdle := FileTree.disk_skipsIdle _ []
  have found : reloaded.config = some (Path.ofText "/w//europa.config.cjs") := by decide +kernel
  obtain ⟨again, same, _, refresh⟩ := refresh_stable disk skips session (some (Path.ofText "/x/y.css"))
  have config : (reloaded.refresh disk).2.config.map Path.components = reloaded.config.map Path.components :=
    (congrArg (Option.map Path.components ∘ Session.config) refresh).trans same
  have theme := congrArg Session.theme refresh
  refine ⟨skips, found, ?_, theme⟩
  rw [config, found]
  decide

end Session

end ThemeSense
