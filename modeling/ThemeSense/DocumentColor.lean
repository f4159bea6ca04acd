import ThemeSense.Color.Basic
import ThemeSense.Mention
import ThemeSense.Theme.Basic

namespace ThemeSense

/-- A color in a document and where it is mentioned. -/
structure DocumentColor where
  range : Range
  color : Rgba
deriving Repr, DecidableEq

/-- The text that a mention stands for: the theme's value, and else the name itself. -/
def Mention.value (table : Option ColorTable) (mention : Mention) : String :=
  let name := String.ofList mention.name
  match mention.kind with
  | .hex => name
  | .theme => hexColor ((table.bind (·.lookup name)).getD name)

/-- The mentions in a text that stand for a color, and the theme as the access leaves it. -/
def Theme.documentColors (theme : Theme) (text : List Char) : List DocumentColor × Theme :=
  let (table, theme) := theme.resolveColors
  let colors := (Mention.all text).filterMap fun mention =>
    (Rgba.parse (mention.value table)).toOption.map (⟨mention.range text, ·⟩)
  (colors, theme)

end ThemeSense
