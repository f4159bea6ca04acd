import ThemeSense.Editor.Basic

namespace ThemeSense

/-- What reaches a running editor from outside. -/
inductive Input where
  | event (event : EditorEvent)
  | color (color : NamedValue)
  | closeColors
  | closeRenders

/-- An input and the millisecond at which it arrives. -/
structure Scheduled where
  time : Nat
  input : Input

/-- An editor on a clock, with the theme that answers its queries, if there is one, and all that it has
sent and drawn so far. It stops when nobody looks at what it draws. -/
structure Timeline where
  editor : Editor
  theme : Option Theme
  colorsOpen : Bool
  rendersOpen : Bool
  running : Bool
  queries : List (Nat × ColorQuery)
  renders : List (Nat × List Decoration)

namespace Timeline

def start (palette : Palette) (theme : Option Theme) : Timeline :=
  ⟨.start palette, theme, true, true, true, [], []⟩

def receive (timeline : Timeline) (now : Nat) : Input → Timeline
  | .event event => { timeline with editor := timeline.editor.receive now event }
  | .color color =>
    if timeline.colorsOpen then { timeline with editor := timeline.editor.learn now color } else timeline
  | .closeColors => { timeline with colorsOpen := false }
  | .closeRenders => { timeline with rendersOpen := false }

/-- The input is for the source of colors. -/
def concernsColors : Input → Bool
  | .color _ => true
  | .closeColors => true
  | _ => false

/-- What arrives at one instant: events before colors, each in order. What was sent before the source of colors
closes is still taken. -/
def receiveAll (timeline : Timeline) (now : Nat) (inputs : List Input) : Timeline :=
  let ordered := inputs.filter (!concernsColors ·) ++ inputs.filter concernsColors
  if timeline.running then ordered.foldl (·.receive now ·) timeline else timeline

def askAll (timeline : Timeline) (now : Nat) : Timeline :=
  if timeline.running then { timeline with editor := timeline.editor.askAllIfDue now } else timeline

/-- Takes what an editor has drawn. -/
def present (timeline : Timeline) (now : Nat) : Option (List Decoration) × Editor → Timeline
  | (none, editor) => { timeline with editor := editor }
  | (some drawn, editor) =>
    if timeline.rendersOpen then
      { timeline with editor := editor, renders := timeline.renders ++ [(now, drawn)] }
    else { timeline with editor := editor, running := false }

def render (timeline : Timeline) (now : Nat) : Timeline :=
  if timeline.running then timeline.present now (timeline.editor.renderIfDue now) else timeline

def refresh (timeline : Timeline) (now : Nat) : Timeline :=
  if timeline.running then timeline.present now (timeline.editor.refreshIfDue now) else timeline

/-- Takes the queries sent at this instant, and hands over the answers at once if a theme answers. -/
def answer (timeline : Timeline) (now : Nat) : Timeline :=
  let (queries, palette) := timeline.editor.palette.takeSent
  let taken := { timeline with
    editor := { timeline.editor with palette := palette }
    queries := timeline.queries ++ queries.map (now, ·) }
  match taken.theme with
  | none => taken
  | some theme =>
    let (colors, theme) := theme.answers queries
    let editor := if taken.running then colors.foldl (·.learn now ·) taken.editor else taken.editor
    { taken with editor := editor, theme := some theme }

/-- One instant: events, colors, the query for all colors, the drawing, the repeated drawing, and last
the answers to what was asked. -/
def instant (timeline : Timeline) (now : Nat) (inputs : List Input) : Timeline :=
  ((((timeline.receiveAll now inputs).askAll now).render now).refresh now).answer now

def inputsAt (schedule : List Scheduled) (time : Nat) : List Input :=
  (schedule.filter (·.time = time)).map (·.input)

/-- The timeline after all instants before `stop`. -/
def before (timeline : Timeline) (schedule : List Scheduled) (stop : Nat) : Timeline :=
  (List.range stop).foldl (fun timeline now => timeline.instant now (inputsAt schedule now)) timeline

/-- The timeline at `stop`, when the source of events closes: what arrives then is still taken, and
no timer fires any more. -/
def run (timeline : Timeline) (schedule : List Scheduled) (stop : Nat) : Timeline :=
  (timeline.before schedule stop).receiveAll stop (inputsAt schedule stop)

end Timeline

end ThemeSense
