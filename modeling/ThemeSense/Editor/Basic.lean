import ThemeSense.Palette

namespace ThemeSense

/-- What happens in an editor. -/
inductive EditorEvent where
  | ready
  | edited (text : List Char)
  | configChanged
deriving Repr, DecidableEq

/-- An editor that keeps the swatches of one document up to date. Times are in milliseconds. A newer
deadline replaces an older one of the same kind. -/
structure Editor where
  palette : Palette
  text : List Char
  askAllAt : Option Nat
  renderAt : Option Nat
  refreshAt : Option Nat

namespace Editor

def startupDelay : Nat :=
  1000

/-- How long a burst of edits or answers must have been over. -/
def quietDelay : Nat :=
  200

def configQueryDelay : Nat :=
  1000

def configRenderDelay : Nat :=
  1500

/-- How long answers may take before the document is drawn again. -/
def refreshDelay : Nat :=
  1000

def start (palette : Palette) : Editor :=
  ⟨palette, [], none, none, none⟩

def receive (editor : Editor) (now : Nat) : EditorEvent → Editor
  | .ready => { editor with askAllAt := some (now + startupDelay), renderAt := some (now + startupDelay) }
  | .edited text => { editor with text := text, renderAt := some (now + quietDelay) }
  | .configChanged => { editor with
      palette := editor.palette.forget
      askAllAt := some (now + configQueryDelay)
      renderAt := some (now + configRenderDelay) }

/-- Takes in a color and draws the document again soon. -/
def learn (editor : Editor) (now : Nat) (color : NamedValue) : Editor :=
  { editor with palette := editor.palette.learn color, renderAt := some (now + quietDelay) }

/-- Draws the document. A pass that asked about colors is followed by another one. -/
def render (editor : Editor) (now : Nat) : List Decoration × Editor :=
  let (pass, palette) := editor.palette.decorate editor.text
  let refreshAt := if 0 < pass.asked then some (now + refreshDelay) else editor.refreshAt
  (pass.decorations, { editor with palette := palette, refreshAt := refreshAt })

/-- Whether a deadline has come. -/
def isDue (deadline : Option Nat) (now : Nat) : Bool :=
  deadline.any (· ≤ now)

def askAllIfDue (editor : Editor) (now : Nat) : Editor :=
  if isDue editor.askAllAt now then { editor with palette := editor.palette.askAll, askAllAt := none }
  else editor

def renderIfDue (editor : Editor) (now : Nat) : Option (List Decoration) × Editor :=
  if isDue editor.renderAt now then
    let (drawn, editor) := { editor with renderAt := none }.render now
    (some drawn, editor)
  else (none, editor)

def refreshIfDue (editor : Editor) (now : Nat) : Option (List Decoration) × Editor :=
  if isDue editor.refreshAt now then
    let (drawn, editor) := { editor with refreshAt := none }.render now
    (some drawn, editor)
  else (none, editor)

end Editor

end ThemeSense
