import ThemeSense.Theme.ColorSource

namespace ThemeSense

/-- A font family: one font, or fonts to fall back on with the preferred one first. -/
inductive FontFamily where
  | single (font : String)
  | stack (fonts : List String)
deriving Repr, DecidableEq

def FontFamily.fonts : FontFamily → List String
  | .single font => [font]
  | .stack fonts => fonts

/-- The value of a `font-family` declaration. -/
def FontFamily.css (family : FontFamily) : String :=
  String.intercalate ", " family.fonts

/-- The size used at one breakpoint. -/
inductive SizeValue where
  | shorthand (value : String)
  | properties (values : Table String)
deriving Repr, DecidableEq

/-- The part that is a font size: `16px/140%` gives `16px`. -/
def SizeValue.preview? : SizeValue → Option String
  | .shorthand value => some (String.ofList (value.toList.takeWhile (· ≠ '/')))
  | .properties values => values.get? "font-size"

def SizeValue.display : SizeValue → String
  | .shorthand value => value
  | .properties values => String.intercalate "; " (values.map fun (name, value) => name ++ ": " ++ value)

inductive FontSize where
  | fixed (value : String)
  | responsive (sizes : Table SizeValue)
deriving Repr, DecidableEq

/-- A spacing value. What is not a scalar is kept as it is. -/
inductive SpacingValue where
  | length (value : String)
  | nested (content : Json)

/-- The design tokens that stylesheets refer to. -/
structure Theme where
  colors : Option ColorSource
  breakpoints : Table String
  collections : Table String
  families : Table FontFamily
  sizes : Table FontSize
  spacing : Table SpacingValue

def Theme.empty : Theme :=
  ⟨none, [], [], [], [], []⟩

/-- Reads the color table, absent if there is none or its function has failed, and gives the
theme as the access leaves it. -/
def Theme.resolveColors (theme : Theme) : Option ColorTable × Theme :=
  match theme.colors with
  | none => (none, theme)
  | some source =>
    let (table, source) := source.resolve
    (table, { theme with colors := some source })

/-- The color table that the next access reads. -/
def Theme.colorTable? (theme : Theme) : Option ColorTable :=
  theme.resolveColors.1

def Theme.breakpoint? (theme : Theme) (name : String) : Option String :=
  theme.breakpoints.get? name

end ThemeSense
