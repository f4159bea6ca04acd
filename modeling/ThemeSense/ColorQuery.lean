import ThemeSense.Theme.Basic

namespace ThemeSense

/-- What an editor asks about the colors of a theme. -/
inductive ColorQuery where
  | all
  | one (name : String)
deriving Repr, DecidableEq

namespace Theme

/-- Every color that can be referred to, and the theme as the access leaves it. -/
def allColors (theme : Theme) : List NamedValue × Theme :=
  let (table, theme) := theme.resolveColors
  ((table.map ColorTable.entries).getD [], theme)

/-- The color with this name, and the theme as the access leaves it. -/
def colorNamed (theme : Theme) (name : String) : Option NamedValue × Theme :=
  let (table, theme) := theme.resolveColors
  ((table.bind (·.lookup name)).map (⟨name, ·⟩), theme)

/-- The colors that answer a query. A name that is not known has no answer. -/
def answer (theme : Theme) : ColorQuery → List NamedValue × Theme
  | .all => theme.allColors
  | .one name =>
    let (color, theme) := theme.colorNamed name
    (color.toList, theme)

/-- The answers to queries one after another. -/
def answers (theme : Theme) : List ColorQuery → List NamedValue × Theme
  | [] => ([], theme)
  | query :: rest =>
    let (colors, theme) := theme.answer query
    let (others, theme) := theme.answers rest
    (colors ++ others, theme)

end Theme

end ThemeSense
