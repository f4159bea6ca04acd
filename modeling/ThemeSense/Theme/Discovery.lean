import ThemeSense.Disk
import ThemeSense.Theme.Config

namespace ThemeSense

/-- The names of config files, the preferred one first. -/
def configNames : List (List Char) :=
  ["europa.config.js".toList, "europa.config.cjs".toList]

def Path.isConfig (path : Path) : Bool :=
  path.fileName?.any configNames.contains

/-- The config files that a directory may hold. -/
def configsIn (directory : Path) : List Path :=
  configNames.map directory.join

/-- A directory and those above it, up to a boundary or the last one. -/
def directoriesUp (boundary : Option Path) (directory : Path) : List Path :=
  if boundary.any (·.sameAs directory) then [directory]
  else match _above : directory.parent? with
    | none => [directory]
    | some up => directory :: directoriesUp boundary up
termination_by directory.pieces.length
decreasing_by exact Path.parent?_length_lt ‹_›

/-- The deepest of the roots that contain a path, the last one of several. -/
def innermostRoot? (roots : List Path) (path : Path) : Option Path :=
  (roots.filter path.isWithin).foldl (fun best root =>
    match best with
    | none => some root
    | some found => if found.components.length ≤ root.components.length then some root else some found) none

/-- The config files that may govern documents in a directory, the nearest first. -/
def configsFrom (boundary : Option Path) (directory : Path) : List Path :=
  (directoriesUp boundary directory).flatMap configsIn

/-- The config files that may govern a document: those on the way up to the root around it, and then
those of every root. -/
def configsFor (roots : List Path) (document : Path) : List Path :=
  (document.parent?.map (configsFrom (innermostRoot? roots document))).getD [] ++ roots.flatMap configsIn

namespace Disk

def configIn? (disk : Disk) (directory : Path) : Option Path :=
  (configsIn directory).find? disk.isFile

def configFrom? (disk : Disk) (boundary : Option Path) (directory : Path) : Option Path :=
  (configsFrom boundary directory).find? disk.isFile

def workspaceConfig? (disk : Disk) (roots : List Path) : Option Path :=
  (roots.flatMap configsIn).find? disk.isFile

def configFor? (disk : Disk) (roots : List Path) (document : Path) : Option Path :=
  (configsFor roots document).find? disk.isFile

/-- The theme of a config file. -/
def loadTheme (disk : Disk) (path : Path) : Except ConfigError Theme :=
  if disk.isFile path then
    match disk.readText path with
    | .ok script => Theme.ofScript script
    | .error reason => .error (.unreadable reason.message)
  else .error (.notFound path.text)

end Disk

end ThemeSense
