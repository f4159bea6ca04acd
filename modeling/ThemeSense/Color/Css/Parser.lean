import ThemeSense.Color.Css.Mix
import ThemeSense.Color.Css.Reading

namespace ThemeSense.Css

/-- The color that a value in the table of names stands for. -/
def valueRgba? (value : String) : Option Rgba :=
  if value = "transparent" then some ⟨0, 0, 0, 0⟩ else (Rgba.ofHex (value.toList.drop 1)).toOption

/-- A color that CSS names. The color of the text and those of the system are not known. -/
def namedRgba? (name : String) : Option Rgba :=
  (namedColor? name).bind valueRgba?

def named? (name : String) : Option Shade :=
  (namedRgba? name).map .ofRgba

def hash? (digits : String) : Option Shade :=
  match Rgba.ofHex digits.toList with
  | .ok color => some (.ofRgba color)
  | .error _ => none

def fromOption {α : Type} (result : Option α) : Reader α := fun tokens =>
  result.map (·, tokens)

/-- A percentage that says how much of a color goes into a mix. -/
def weight : Reader Float32 := do
  match ← Reader.next with
  | .percentage unit => pure unit
  | _ => failure

/-- Two weights, of which one gives the other and none gives halves. -/
def weights : Option Float32 → Option Float32 → Float32 × Float32
  | none, none => (0.5, 0.5)
  | some p, none => (p, 1 - p)
  | none, some q => (1 - q, q)
  | some p, some q => (p, q)

def hueArc (space : Space) : Reader HueArc := do
  if space.hasHue then
    match ← Reader.optional (do fromOption (HueArc.ofName? (← Reader.ident))) with
    | some arc =>
      Reader.word "hue"
      pure arc
    | none => pure .shorter
  else pure .shorter

/-- A color and its weight, which stands before or after it. -/
def weighted (color : Reader Shade) : Reader (Shade × Option Float32) := do
  let before ← Reader.optional weight
  let shade ← color
  match before with
  | some p => pure (shade, some p)
  | none => pure (shade, ← Reader.optional weight)

def mixBody (color : Reader Shade) : Reader Shade := do
  Reader.word "in"
  let space ← fromOption (mixSpace? (← Reader.ident))
  let arc ← hueArc space
  Reader.comma
  let (first, firstWeight) ← weighted color
  Reader.comma
  let (second, secondWeight) ← weighted color
  let (p, q) := weights firstWeight secondWeight
  guard !(p + q == 0)
  pure (mix space arc first p second q)

/-- The color that a relative color starts from, if one is given. -/
def origin (color : Reader Shade) (space : Space) (factor : Float32) : Reader (Option Origin) := do
  if ← Reader.succeeds (Reader.word "from") then
    pure (some ((← color).origin space factor))
  else pure none

def relativeTo (color : Reader Shade) (space : Space) (factor : Float32)
    (body : Option Origin → Reader Shade) : Reader Shade := do
  body (← origin color space factor)

def predefinedFunction (color : Reader Shade) : Reader Shade := do
  let source ← if ← Reader.succeeds (Reader.word "from") then Option.some <$> color else pure none
  let space ← fromOption (predefined? (← Reader.ident))
  predefinedBody space (source.map (·.origin space 1))

def functionBody (color : Reader Shade) : String → Reader Shade
  | "rgb" | "rgba" => relativeTo color .srgb 255 rgbBody
  | "hsl" | "hsla" => relativeTo color .hsl 1 (hueBody .hsl true)
  | "hwb" => relativeTo color .hwb 1 (hueBody .hwb false)
  | "lab" => relativeTo color .lab 1 (axesBody .lab 100 125)
  | "oklab" => relativeTo color .oklab 1 (axesBody .oklab 1 0.4)
  | "lch" => relativeTo color .lch 1 (polarBody .lch 100 150)
  | "oklch" => relativeTo color .oklch 1 (polarBody .oklch 1 0.4)
  | "color" => predefinedFunction color
  | "color-mix" => mixBody color
  | _ => failure

/-- A color, inside which others may be nested to the given depth. -/
def color : Nat → Reader Shade
  | 0 => failure
  | depth + 1 => do
    match ← Reader.next with
    | .hash digits => fromOption (hash? digits)
    | .ident name => fromOption (named? name)
    | .function name => Reader.block (functionBody (color depth) (lowerCase name))
    | _ => failure

/-- Reads a text that is a single color in the notation of CSS. The value of a name is taken as it is. -/
def parse? (text : List Char) : Option Rgba := do
  let tokens ← tokens? text
  match Reader.dropSpace tokens with
  | .ident name :: rest => if (Reader.dropSpace rest).isEmpty then namedRgba? name else none
  | _ =>
    let (shade, rest) ← color (tokens.length + 1) tokens
    if (Reader.dropSpace rest).isEmpty then some shade.toRgba else none

end ThemeSense.Css
