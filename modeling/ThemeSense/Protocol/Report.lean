import ThemeSense.Completion.Record
import ThemeSense.Palette
import ThemeSense.Protocol.Place

namespace ThemeSense

def NamedValue.toJson (color : NamedValue) : Json :=
  .obj [("colorName", .str color.name), ("hexValue", .str color.value)]

def Documentation.toJson : Documentation → Json
  | .plain text => .obj [("kind", .str "plain"), ("value", .str text)]
  | .markdown text => .obj [("kind", .str "markdown"), ("value", .str text)]

def Swatch.toJson (swatch : Swatch) : Json :=
  .obj [("colorValue", .str swatch.shown), ("originalColor", .str swatch.written)]

def Suggestion.toJson (suggestion : Suggestion) : Json :=
  .compact [
    ("label", some (.str suggestion.label)),
    ("category", some (.str suggestion.category.name)),
    ("detail", some (.str suggestion.detail)),
    ("documentation", suggestion.documentation.map Documentation.toJson),
    ("sortRank", some (.nat suggestion.rank)),
    ("color", suggestion.swatch.map Swatch.toJson)]

def Decoration.toJson (decoration : Decoration) : Json :=
  .obj [("range", decoration.range.toJson), ("color", .str decoration.color)]

end ThemeSense
