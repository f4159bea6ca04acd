import ThemeSense.Color.Css.Calc.Reading
import ThemeSense.Color.Rgba

namespace ThemeSense.Css

/-- The components of a color that a relative color starts from, under their names and in the units
of the function that uses them. -/
structure Origin where
  names : List String
  values : List Float32
  alpha : Float32

def Origin.component? (origin : Origin) (name : String) : Option Float32 :=
  if name = "alpha" then some origin.alpha else (origin.names.zip origin.values).lookup name

/-- A component as it was written. Missing ones are numbers that are not one. -/
inductive Component where
  | number (x : Float32)
  | percentage (unit : Float32)

def Component.isMissing : Component → Bool
  | .number x => x.isNaN
  | .percentage _ => false

/-- The component in units of which `basis` is the whole. -/
def Component.scaled (basis : Float32) : Component → Float32
  | .number x => x
  | .percentage unit => unit * basis

def missing : Reader Float32 := do
  Reader.word "none"
  pure (0 / 0)

/-- A component of the origin or a calculation with some. `basis` is what a hundred percent are. -/
def relative (origin : Origin) (basis : Float32) : Reader Component :=
  (do
    let name ← Reader.ident
    match origin.component? name with
    | some x => pure (.number x)
    | none => failure) <|>
  (do
    match ← Calc.read .number fun name => (origin.component? name).map .number with
    | .number x => pure (.number x)
    | .value _ => failure) <|>
  (do
    match ← Calc.read .percentage fun name => (origin.component? name).map (fun x => .value (x / basis)) with
    | .value x => pure (.percentage x)
    | .number _ => failure)

def fromOrigin {α : Type} (origin : Option Origin) (reader : Origin → Reader α) : Reader α :=
  match origin with
  | some origin => reader origin
  | none => failure

/-- A number or a percentage, which may be missing. -/
def component (origin : Option Origin) (basis : Float32) : Reader Component :=
  fromOrigin origin (relative · basis) <|>
  (do pure (.number (← number))) <|>
  (do pure (.percentage (← percentage))) <|>
  (do pure (.number (← missing)))

def scaledComponent (origin : Option Origin) (basis : Float32) : Reader Float32 := do
  pure ((← component origin basis).scaled basis)

def relativeHue (origin : Origin) : Reader Float32 :=
  (do
    match origin.component? (← Reader.ident) with
    | some x => pure x
    | none => failure) <|>
  (do
    match ← Calc.read .angle fun name => (origin.component? name).map .value with
    | .value x => pure x
    | .number _ => failure) <|>
  (do
    match ← Calc.read .number fun name => (origin.component? name).map .number with
    | .number x => pure x
    | .value _ => failure)

/-- A hue in degrees, which may be missing. -/
def hue (origin : Option Origin) : Reader Float32 :=
  fromOrigin origin relativeHue <|> angle <|> number <|> missing

def alphaValue (origin : Option Origin) : Reader Float32 := do
  pure (clamp 0 1 (← scaledComponent origin 1))

/-- An alpha after a slash. Without one the color is opaque. -/
def slashAlpha (origin : Option Origin) : Reader Float32 := do
  if ← Reader.succeeds (Reader.expect (.delim '/')) then alphaValue origin else pure 1

/-- An alpha after a comma, which ends the block. -/
def commaAlpha : Reader Float32 := do
  if ← Reader.atEnd then pure 1
  else do
    Reader.comma
    alphaValue none

def Shade.ofRgba (color : Rgba) : Shade :=
  ⟨.srgb, ⟨Rgba.unit color.red, Rgba.unit color.green, Rgba.unit color.blue⟩, Rgba.unit color.alpha⟩

/-- The color on a screen. -/
def Shade.toRgba (shade : Shade) : Rgba :=
  let shown := (shade.to .srgb).resolved
  Rgba.ofUnits shown.coords.x shown.coords.y shown.coords.z shown.alpha

def Shade.isComplete (shade : Shade) : Bool :=
  !(shade.coords.x.isNaN || shade.coords.y.isNaN || shade.coords.z.isNaN || shade.alpha.isNaN)

/-- Colors of the screen's own space are kept with eight bits a channel unless a part is missing. -/
def Shade.stored (shade : Shade) : Shade :=
  if shade.isComplete then .ofRgba shade.toRgba else shade

/-- A channel that was written in 256 steps or in percent, as a part of one. -/
def channelUnit : Component → Float32
  | .number x => if x.isNaN then x else clamp 0 255 x.round / 255
  | .percentage unit => clamp 0 1 unit

/-- With commas, all three channels are of the same sort and none is missing. -/
def legacyChannels (red : Component) : Reader Triple := do
  let channel : Reader Component := match red with
    | .number _ => do pure (.number (← number))
    | .percentage _ => do pure (.percentage (← percentage))
  let step (c : Component) : Float32 := clamp 0 255 (c.scaled 255).round / 255
  let green ← channel
  Reader.comma
  let blue ← channel
  pure ⟨step red, step green, step blue⟩

def rgbBody (origin : Option Origin) : Reader Shade := do
  let red ← component origin 255
  if origin.isNone && !red.isMissing && (← Reader.succeeds Reader.comma) then
    let channels ← legacyChannels red
    pure (Shade.stored ⟨.srgb, channels, ← commaAlpha⟩)
  else
    let green ← component origin 255
    let blue ← component origin 255
    let alpha ← slashAlpha origin
    pure (Shade.stored ⟨.srgb, ⟨channelUnit red, channelUnit green, channelUnit blue⟩, alpha⟩)

def percentComponent (origin : Option Origin) : Reader Float32 := do
  pure (clamp 0 100 (← scaledComponent origin 100))

/-- A hue and two percentages. Commas may stand between them only in the older notation. -/
def hueBody (space : Space) (commas : Bool) (origin : Option Origin) : Reader Shade := do
  let h ← hue origin
  let legacy := commas && origin.isNone && !h.isNaN && (← Reader.succeeds Reader.comma)
  let a ← percentComponent origin
  if legacy then
    Reader.comma
    let b ← percentComponent origin
    guard (!a.isNaN && !b.isNaN)
    pure (Shade.stored ⟨space, ⟨h, a, b⟩, ← commaAlpha⟩)
  else
    let b ← percentComponent origin
    pure (Shade.stored ⟨space, ⟨h, a, b⟩, ← slashAlpha origin⟩)

/-- The largest number of the format. -/
def largest : Float32 :=
  3.40282347e38

def axesBody (space : Space) (lightness axis : Float32) (origin : Option Origin) : Reader Shade := do
  let l ← scaledComponent origin lightness
  let a ← scaledComponent origin axis
  let b ← scaledComponent origin axis
  pure ⟨space, ⟨clamp 0 largest l, a, b⟩, ← slashAlpha origin⟩

def polarBody (space : Space) (lightness chroma : Float32) (origin : Option Origin) : Reader Shade := do
  let l ← scaledComponent origin lightness
  let c ← scaledComponent origin chroma
  let h ← hue origin
  pure ⟨space, ⟨clamp 0 largest l, clamp 0 largest c, h⟩, ← slashAlpha origin⟩

def predefined? : String → Option Space
  | "srgb" => some .srgb
  | "srgb-linear" => some .srgbLinear
  | "display-p3" => some .displayP3
  | "a98-rgb" => some .a98
  | "prophoto-rgb" => some .prophoto
  | "rec2020" => some .rec2020
  | "xyz-d50" => some .xyzD50
  | "xyz" => some .xyzD65
  | "xyz-d65" => some .xyzD65
  | _ => none

def predefinedBody (space : Space) (origin : Option Origin) : Reader Shade := do
  let a ← scaledComponent origin 1
  let b ← scaledComponent origin 1
  let c ← scaledComponent origin 1
  pure ⟨space, ⟨a, b, c⟩, ← slashAlpha origin⟩

def Space.names : Space → List String
  | .lab | .oklab => ["l", "a", "b"]
  | .lch | .oklch => ["l", "c", "h"]
  | .hsl => ["h", "s", "l"]
  | .hwb => ["h", "w", "b"]
  | .xyzD50 | .xyzD65 => ["x", "y", "z"]
  | _ => ["r", "g", "b"]

/-- A color as the origin of another in `space`, with coordinates multiplied by `factor`. -/
def Shade.origin (space : Space) (factor : Float32) (shade : Shade) : Origin :=
  let source := (shade.to space).resolved
  let t := source.coords
  ⟨space.names, [t.x * factor, t.y * factor, t.z * factor], source.alpha⟩

/-- The space in which a mix is made. -/
def mixSpace? : String → Option Space
  | "srgb" => some .srgb
  | "srgb-linear" => some .srgbLinear
  | "lab" => some .lab
  | "oklab" => some .oklab
  | "xyz" => some .xyzD65
  | "xyz-d50" => some .xyzD50
  | "xyz-d65" => some .xyzD65
  | "hsl" => some .hsl
  | "hwb" => some .hwb
  | "lch" => some .lch
  | "oklch" => some .oklch
  | _ => none

end ThemeSense.Css
