import ThemeSense.ColorQuery
import ThemeSense.Completion.Item
import ThemeSense.Completion.Provider
import ThemeSense.DocumentColor
import ThemeSense.Hover
import ThemeSense.Theme.Discovery
import ThemeSense.Uri

namespace ThemeSense

/-- How far a session has come. -/
inductive Phase where
  | fresh
  | running
  | shutDown
  | over
deriving Repr, DecidableEq

inductive Severity where
  | warning
  | info
deriving Repr, DecidableEq

/-- What a server tells its client of its own accord. -/
inductive ClientMessage where
  | log (severity : Severity) (text : String)
  | watchConfigs
  | color (color : NamedValue)
deriving Repr, DecidableEq

/-- The state of a language server: open documents, the roots of the workspace, the config in use and
the theme that it gave. -/
structure Session where
  phase : Phase
  documents : List (Uri × List Char)
  roots : List Path
  config : Option Path
  theme : Theme

/-- An explanation of a word and where the word stands. -/
structure HoverAnswer where
  text : String
  range : Range
deriving Repr, DecidableEq

namespace Session

def start : Session :=
  ⟨.fresh, [], [], none, .empty⟩

def document? (session : Session) (uri : Uri) : Option (List Char) :=
  (session.documents.find? (·.1 = uri)).map (·.2)

def setDocument (session : Session) (uri : Uri) (text : List Char) : Session :=
  { session with documents := (uri, text) :: session.documents.filter (·.1 ≠ uri) }

def closeDocument (session : Session) (uri : Uri) : Session :=
  { session with documents := session.documents.filter (·.1 ≠ uri) }

/-- The theme of a config, and what to tell the client about it. One that cannot be loaded gives the
empty theme. -/
def loadTheme (disk : Disk) : Option Path → List ClientMessage × Theme
  | none => ([], .empty)
  | some path =>
    match disk.loadTheme path with
    | .ok theme => ([.log .info s!"EuropaCSS config loaded from {path.text}"], theme)
    | .error e => ([.log .warning s!"EuropaCSS config {path.text} not loaded: {e.message}"], .empty)

/-- Finds the config for a document, or else for the workspace, and loads it. -/
def reload (session : Session) (disk : Disk) (document : Option Path) : List ClientMessage × Session :=
  let found := match document with
    | some path => disk.configFor? session.roots path
    | none => disk.workspaceConfig? session.roots
  let (messages, theme) := loadTheme disk found
  (messages, { session with theme := theme, config := found })

/-- Tells the client the answer to a question about colors. -/
def answerColors (session : Session) (query : ColorQuery) : List ClientMessage × Session :=
  let (colors, theme) := session.theme.answer query
  (colors.map .color, { session with theme := theme })

/-- Loads the config again, looking for it where it was, and tells the client all colors. -/
def refresh (session : Session) (disk : Disk) : List ClientMessage × Session :=
  let (loaded, session) := session.reload disk session.config
  let (colors, session) := session.answerColors .all
  (loaded ++ colors, session)

def initialized (session : Session) (disk : Disk) : List ClientMessage × Session :=
  let (loaded, session) := session.reload disk none
  (loaded ++ [.watchConfigs, .log .info "EuropaCSS LSP initialized"], session)

/-- Opens a document. As long as there is no config, each document is a new chance to find one. -/
def didOpen (session : Session) (disk : Disk) (uri : Uri) (text : List Char) : List ClientMessage × Session :=
  let session := session.setDocument uri text
  match session.config, uri.path? with
  | none, some path => session.reload disk (some path)
  | _, _ => ([], session)

/-- Takes the first of the changes, which holds the whole text. -/
def didChange (session : Session) (uri : Uri) : List (List Char) → Session
  | [] => session
  | text :: _ => session.setDocument uri text

/-- Loads the config again if one of the changed files is a config. -/
def filesChanged (session : Session) (disk : Disk) (files : List Uri) : List ClientMessage × Session :=
  if (files.filterMap Uri.path?).any Path.isConfig then session.refresh disk else ([], session)

def completion (session : Session) (uri : Uri) (position : Position) : Option (List CompletionItem) × Session :=
  match session.document? uri with
  | none => (none, session)
  | some text =>
    let (suggestions, theme) := session.theme.suggestions (slotAt text position)
    (some (suggestions.map .ofSuggestion), { session with theme := theme })

def hover (session : Session) (uri : Uri) (position : Position) : Option HoverAnswer × Session :=
  match session.document? uri with
  | none => (none, session)
  | some text =>
    let (found, theme) := session.theme.hoverAt text position
    let answer := found.map fun (span, explanation) => ⟨explanation, span.range text position.line⟩
    (answer, { session with theme := theme })

def documentColors (session : Session) (uri : Uri) : List DocumentColor × Session :=
  match session.document? uri with
  | none => ([], session)
  | some text =>
    let (colors, theme) := session.theme.documentColors text
    (colors, { session with theme := theme })

end Session

end ThemeSense
