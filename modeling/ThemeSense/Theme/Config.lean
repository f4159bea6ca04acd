import ThemeSense.Json.Relaxed
import ThemeSense.Json.Strict
import ThemeSense.Script.Inline
import ThemeSense.Theme.Reading

namespace ThemeSense

/-- Why a config could not be loaded. -/
inductive ConfigError where
  | unreadable (reason : String)
  | script (cause : Script.Error)
  | malformed
  | notFound (path : String)
deriving Repr, DecidableEq

/-- The text shown for an error. What exactly is malformed is not told. -/
def ConfigError.message : ConfigError → String
  | .unreadable reason => "Failed to read config: " ++ reason
  | .script cause => "Unsupported config script: " ++ cause.message
  | .malformed => "Failed to parse config"
  | .notFound path => "Config file not found: " ++ path

/-- The `theme` of an exported object, or of an array whose first element it is. Two of them are
an error. -/
def exportedTheme? : Json → Option (Option Json)
  | .obj members =>
    match members.filter (·.1 = "theme") with
    | [] => some none
    | [(_, theme)] => some (some theme.merged)
    | _ => none
  | .arr [] => some none
  | .arr (theme :: _) => some (some theme.merged)
  | _ => none

/-- The color table that the text of a function's result describes. -/
def colorFunctionResult (body : String) : Except ThemeError ColorTable :=
  match (Json.parseRelaxed? body).bind ColorTable.ofJson? with
  | some table => .ok table
  | none => .error (.colorFunction "the result is not a color table")

/-- The color source of a script that gives its colors by a function. -/
def Script.Inlined.colorSource? (script : Script.Inlined) : Option ColorSource :=
  (script.thunk? "theme.colors").map fun thunk =>
    .function (.ofResults fun _ => colorFunctionResult thunk.body)

/-- Reads the theme of a config script. -/
def Theme.ofScript (script : String) : Except ConfigError Theme :=
  match Script.inline script with
  | .error cause => .error (.script cause)
  | .ok inlined =>
    match (Json.parseRelaxed? inlined.source).bind exportedTheme? with
    | none => .error .malformed
    | some theme => .ok (Theme.ofJson inlined.colorSource? theme)

/-- Reads the theme of a config in standard JSON. An array may hold nothing beside the theme, and
what stands beside it in an object is overlooked. -/
def Theme.ofJsonText? (text : String) : Option Theme :=
  match Json.parseOverlooking? (· != "theme") text with
  | some (.arr (_ :: _ :: _)) => none
  | some json => (exportedTheme? json).map (Theme.ofJson none)
  | none => none

end ThemeSense
