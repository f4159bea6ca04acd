import ThemeSense.CommandLine.Arguments
import ThemeSense.Completion.Provider
import ThemeSense.Editor.Timeline
import ThemeSense.Hover
import ThemeSense.Protocol.Report
import ThemeSense.Theme.Discovery

namespace ThemeSense

/-- Why a job ended early: the exit code and what to say. -/
structure Failure where
  exit : Nat
  message : String
deriving Repr, DecidableEq

def versionText : String :=
  "europa-lsp 0.2.0"

def usageText : String :=
  "Usage: europa-lsp [COMMAND]\n\n" ++
  "Commands:\n" ++
  "  lsp       Start the language server on standard input and output (default)\n" ++
  "  complete  Print the completions offered at a position\n" ++
  "  hover     Print the hover shown for the token at a position\n" ++
  "  colors    Print every theme color\n" ++
  "  swatches  Print the swatches of a stylesheet\n" ++
  "  help      Print this message\n\n" ++
  "Options:\n" ++
  "  -h, --help     Print help\n" ++
  "  -V, --version  Print version"

/-- Help and version are what was wanted; every other mistake in the arguments is an error. -/
def ArgumentError.exit : ArgumentError → Nat
  | .helpWanted => 0
  | .versionWanted => 0
  | _ => 2

/-- The swatches that an editor draws for a stylesheet once everything has come to rest. -/
def Theme.settledDecorations (theme : Theme) (text : List Char) : List Decoration :=
  let timeline := (Timeline.start .empty (some theme)).run
    [⟨0, .event (.edited text)⟩, ⟨0, .event .ready⟩] 6000
  ((timeline.renders.getLast?).map (·.2)).getD []

namespace Source

/-- The text of the stylesheet. -/
def read (source : Source) (disk : Disk) (input : ByteArray) : Except Failure (List Char) :=
  if source.stdin then
    match String.fromUTF8? input with
    | some text => .ok text.toList
    | none => .error ⟨1, "Error reading stdin: " ++ FileError.notText.message⟩
  else match source.file with
    | none => .error ⟨2, "Error: Provide a file or use --stdin"⟩
    | some file =>
      match disk.readText (Path.ofText file) with
      | .ok text => .ok text.toList
      | .error e => .error ⟨1, "Error reading file: " ++ e.message⟩

/-- The directory in which the search for a config starts. -/
def directory (source : Source) (workingDirectory : Path) : Path :=
  match source.file.bind fun file => (Path.ofText file).parent? with
  | some directory => if directory.isEmpty then workingDirectory else directory
  | none => workingDirectory

/-- The theme: of the config that was asked for, which must load, or of the nearest one, which may
be missing or wrong. -/
def theme (source : Source) (disk : Disk) (workingDirectory : Path) : Except Failure Theme :=
  match source.config with
  | some config =>
    match disk.loadTheme (Path.ofText config) with
    | .ok theme => .ok theme
    | .error e => .error ⟨1, "Error: " ++ e.message⟩
  | none =>
    match disk.configFrom? none (source.directory workingDirectory) with
    | none => .ok .empty
    | some path => .ok ((disk.loadTheme path).toOption.getD .empty)

/-- All files that a job on this source may read. -/
def files (source : Source) (workingDirectory : Path) : List Path :=
  (source.file.map Path.ofText).toList ++ (source.config.map Path.ofText).toList ++
    configsFrom none (source.directory workingDirectory)

end Source

namespace Job

def completeReport (theme : Theme) (text : List Char) (position : Position) : Json :=
  let slot := slotAt text position
  let (suggestions, _) := theme.suggestions slot
  .obj [("context", .str slot.name), ("items", .arr (suggestions.map Suggestion.toJson))]

def hoverReport (theme : Theme) (text : List Char) (position : Position) : Json :=
  match (theme.hoverAt text position).1 with
  | none => .null
  | some (span, markdown) => .obj [("token", .str (String.ofList span.word)), ("markdown", .str markdown)]

def source : Job → Source
  | .serve => ⟨none, false, none⟩
  | .complete source _ _ => source
  | .hover source _ _ => source
  | .colors config => ⟨none, false, config⟩
  | .swatches source => source

/-- What a job prints. Serving prints nothing of its own. -/
def report (job : Job) (disk : Disk) (workingDirectory : Path) (input : ByteArray) : Except Failure (Option Json) :=
  let onSource (source : Source) (f : Theme → List Char → Json) : Except Failure (Option Json) :=
    (source.read disk input).bind fun text =>
      (source.theme disk workingDirectory).map fun theme => some (f theme text)
  match job with
  | .serve => .ok none
  | .complete source line character =>
    onSource source fun theme text => completeReport theme text ⟨line - 1, character⟩
  | .hover source line character =>
    onSource source fun theme text => hoverReport theme text ⟨line - 1, character⟩
  | .colors _ => (job.source.theme disk workingDirectory).map fun theme =>
      some (.arr (theme.allColors.1.map NamedValue.toJson))
  | .swatches source => onSource source fun theme text =>
      .arr ((theme.settledDecorations text).map Decoration.toJson)

end Job

end ThemeSense
