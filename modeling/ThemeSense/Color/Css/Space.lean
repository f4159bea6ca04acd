namespace ThemeSense.Css

/-- The coordinate systems in which CSS writes colors. -/
inductive Space where
  | srgb
  | srgbLinear
  | displayP3
  | a98
  | prophoto
  | rec2020
  | xyzD50
  | xyzD65
  | lab
  | lch
  | oklab
  | oklch
  | hsl
  | hwb
deriving Repr, DecidableEq

/-- Three coordinates. -/
structure Triple where
  x : Float32
  y : Float32
  z : Float32

/-- A color in one of the spaces. A component that is not a number is missing. Percentages of
`hsl`, `hwb` and the lightness of `lab` and `lch` run to 100. -/
structure Shade where
  space : Space
  coords : Triple
  alpha : Float32

/-- A missing component counts as zero. -/
def present (x : Float32) : Float32 :=
  if x.isNaN then 0 else x

def Triple.present (t : Triple) : Triple :=
  ⟨Css.present t.x, Css.present t.y, Css.present t.z⟩

/-- Cuts to an interval and keeps a missing component missing. -/
def clamp (low high x : Float32) : Float32 :=
  if x < low then low else if x > high then high else x

def lesser (x y : Float32) : Float32 :=
  if x ≤ y then x else y

def greater (x y : Float32) : Float32 :=
  if x ≥ y then x else y

/-- A linear map, by rows. -/
structure Matrix where
  first : Triple
  second : Triple
  third : Triple

def Triple.dot (s t : Triple) : Float32 :=
  s.x * t.x + s.y * t.y + s.z * t.z

def Matrix.apply (m : Matrix) (t : Triple) : Triple :=
  ⟨m.first.dot t, m.second.dot t, m.third.dot t⟩

def Triple.map (f : Float32 → Float32) (t : Triple) : Triple :=
  ⟨f t.x, f t.y, f t.z⟩

def cube (x : Float32) : Float32 :=
  x * x * x

def signOf (x : Float32) : Float32 :=
  if x < 0 then -1 else 1

def pi : Float32 :=
  3.14159265358979323846

namespace Srgb

def toLinear (c : Float32) : Float32 :=
  if c.abs < 0.04045 then c / 12.92 else signOf c * ((c.abs + 0.055) / 1.055).pow 2.4

def ofLinear (c : Float32) : Float32 :=
  if c.abs > 0.0031308 then signOf c * (1.055 * c.abs.pow (1 / 2.4) - 0.055) else 12.92 * c

def linearToXyz : Matrix where
  first := ⟨0.4123907992659595, 0.35758433938387796, 0.1804807884018343⟩
  second := ⟨0.21263900587151036, 0.7151686787677559, 0.07219231536073371⟩
  third := ⟨0.01933081871559185, 0.11919477979462599, 0.9505321522496606⟩

def xyzToLinear : Matrix where
  first := ⟨3.2409699419045213, -1.5373831775700935, -0.4986107602930033⟩
  second := ⟨-0.9692436362808798, 1.8759675015077206, 0.04155505740717561⟩
  third := ⟨0.05563007969699361, -0.20397695888897657, 1.0569715142428786⟩

end Srgb

namespace DisplayP3

def linearToXyz : Matrix where
  first := ⟨0.4865709486482162, 0.26566769316909306, 0.1982172852343625⟩
  second := ⟨0.2289745640697488, 0.6917385218365064, 0.079286914093745⟩
  third := ⟨0, 0.04511338185890264, 1.043944368900976⟩

def xyzToLinear : Matrix where
  first := ⟨2.493496911941425, -0.9313836179191239, -0.40271078445071684⟩
  second := ⟨-0.8294889695615747, 1.7626640603183463, 0.023624685841943577⟩
  third := ⟨0.03584583024378447, -0.07617238926804182, 0.9568845240076872⟩

end DisplayP3

namespace A98

def toLinear (c : Float32) : Float32 :=
  signOf c * c.abs.pow (563 / 256)

def ofLinear (c : Float32) : Float32 :=
  signOf c * c.abs.pow (256 / 563)

def linearToXyz : Matrix where
  first := ⟨0.5766690429101305, 0.1855582379065463, 0.1882286462349947⟩
  second := ⟨0.29734497525053605, 0.6273635662554661, 0.07529145849399788⟩
  third := ⟨0.02703136138641234, 0.07068885253582723, 0.9913375368376388⟩

def xyzToLinear : Matrix where
  first := ⟨2.0415879038107465, -0.5650069742788596, -0.34473135077832956⟩
  second := ⟨-0.9692436362808795, 1.8759675015077202, 0.04155505740717557⟩
  third := ⟨0.013444280632031142, -0.11836239223101838, 1.0151749943912054⟩

end A98

namespace ProPhoto

def toLinear (c : Float32) : Float32 :=
  if c.abs ≤ 16 / 512 then c / 16 else signOf c * c.abs.pow 1.8

def ofLinear (c : Float32) : Float32 :=
  if c.abs ≥ 1 / 512 then signOf c * c.abs.pow (1 / 1.8) else 16 * c

def linearToXyzD50 : Matrix where
  first := ⟨0.7977604896723027, 0.13518583717574031, 0.0313493495815248⟩
  second := ⟨0.2880711282292934, 0.7118432178101014, 0.00008565396060525902⟩
  third := ⟨0, 0, 0.8251046025104601⟩

def xyzD50ToLinear : Matrix where
  first := ⟨1.3457989731028281, -0.25558010007997534, -0.05110628506753401⟩
  second := ⟨-0.5446224939028347, 1.5082327413132781, 0.02053603239147973⟩
  third := ⟨0, 0, 1.2119675456389454⟩

end ProPhoto

namespace Rec2020

def alpha : Float32 :=
  1.09929682680944

def beta : Float32 :=
  0.018053968510807

def toLinear (c : Float32) : Float32 :=
  if c.abs < beta * 4.5 then c / 4.5 else signOf c * ((c.abs + alpha - 1) / alpha).pow (1 / 0.45)

def ofLinear (c : Float32) : Float32 :=
  if c.abs > beta then signOf c * (alpha * c.abs.pow 0.45 - (alpha - 1)) else 4.5 * c

def linearToXyz : Matrix where
  first := ⟨0.6369580483012914, 0.14461690358620832, 0.1688809751641721⟩
  second := ⟨0.2627002120112671, 0.6779980715188708, 0.05930171646986196⟩
  third := ⟨0, 0.028072693049087428, 1.060985057710791⟩

def xyzToLinear : Matrix where
  first := ⟨1.7166511879712674, -0.35567078377639233, -0.25336628137365974⟩
  second := ⟨-0.6666843518324892, 1.6164812366349395, 0.01576854581391113⟩
  third := ⟨0.017639857445310783, -0.042770613257808524, 0.9421031212354738⟩

end Rec2020

/-- From the white point of a print to that of a screen. -/
def d50ToD65 : Matrix where
  first := ⟨0.9554734527042182, -0.023098536874261423, 0.0632593086610217⟩
  second := ⟨-0.028369706963208136, 1.0099954580058226, 0.021041398966943008⟩
  third := ⟨0.012314001688319899, -0.020507696433477912, 1.3303659366080753⟩

def d65ToD50 : Matrix where
  first := ⟨1.0479298208405488, 0.022946793341019088, -0.05019222954313557⟩
  second := ⟨0.029627815688159344, 0.990434484573249, -0.01707382502938514⟩
  third := ⟨-0.009243058152591178, 0.015055144896577895, 0.7518742899580008⟩

namespace Lab

def white : Triple :=
  ⟨0.3457 / 0.3585, 1, (1 - 0.3457 - 0.3585) / 0.3585⟩

def kappa : Float32 :=
  24389 / 27

def epsilon : Float32 :=
  216 / 24389

def toXyzD50 (lab : Triple) : Triple :=
  let f1 := (lab.x + 16) / 116
  let f0 := lab.y / 500 + f1
  let f2 := f1 - lab.z / 200
  let x := if cube f0 > epsilon then cube f0 else (116 * f0 - 16) / kappa
  let y := if lab.x > kappa * epsilon then cube f1 else lab.x / kappa
  let z := if cube f2 > epsilon then cube f2 else (116 * f2 - 16) / kappa
  ⟨x * white.x, y * white.y, z * white.z⟩

def ofXyzD50 (xyz : Triple) : Triple :=
  let f (x : Float32) : Float32 := if x > epsilon then x.cbrt else (kappa * x + 16) / 116
  let f0 := f (xyz.x / white.x)
  let f1 := f (xyz.y / white.y)
  let f2 := f (xyz.z / white.z)
  ⟨116 * f1 - 16, 500 * (f0 - f1), 200 * (f1 - f2)⟩

end Lab

namespace Oklab

def lmsToXyz : Matrix where
  first := ⟨1.2268798733741557, -0.5578149965554813, 0.28139105017721583⟩
  second := ⟨-0.04057576262431372, 1.1122868293970594, -0.07171106666151701⟩
  third := ⟨-0.07637294974672142, -0.4214933239627914, 1.5869240244272418⟩

def toLms : Matrix where
  first := ⟨0.99999999845051981432, 0.39633779217376785678, 0.21580375806075880339⟩
  second := ⟨1.0000000088817607767, -0.1055613423236563494, -0.063854174771705903402⟩
  third := ⟨1.0000000546724109177, -0.089484182094965759684, -1.2914855378640917399⟩

def xyzToLms : Matrix where
  first := ⟨0.8190224432164319, 0.3619062562801221, -0.12887378261216414⟩
  second := ⟨0.0329836671980271, 0.9292868468965546, 0.03614466816999844⟩
  third := ⟨0.048177199566046255, 0.26423952494422764, 0.6335478258136937⟩

def ofLms : Matrix where
  first := ⟨0.2104542553, 0.7936177850, -0.0040720468⟩
  second := ⟨1.9779984951, -2.4285922050, 0.4505937099⟩
  third := ⟨0.0259040371, 0.7827717662, -0.8086757660⟩

def toXyz (lab : Triple) : Triple :=
  lmsToXyz.apply ((toLms.apply lab).map cube)

def ofXyz (xyz : Triple) : Triple :=
  ofLms.apply ((xyzToLms.apply xyz).map Float32.cbrt)

end Oklab

namespace Polar

/-- Chroma and hue instead of two axes. -/
def ofAxes (t : Triple) : Triple :=
  let hue := t.z.atan2 t.y * 180 / pi
  ⟨t.x, (t.y * t.y + t.z * t.z).sqrt, if hue < 0 then hue + 360 else hue⟩

def toAxes (t : Triple) : Triple :=
  ⟨t.x, t.y * (t.z * pi / 180).cos, t.y * (t.z * pi / 180).sin⟩

end Polar

namespace Hsl

/-- One channel from a hue in thirds of the circle. -/
def channel (m1 m2 h : Float32) : Float32 :=
  let h := if h < 0 then h + 3 else h
  let h := if h > 3 then h - 3 else h
  if h * 2 < 1 then m1 + (m2 - m1) * h * 2
  else if h * 2 < 3 then m2
  else if h < 2 then m1 + (m2 - m1) * (2 - h) * 2
  else m1

def toSrgb (t : Triple) : Triple :=
  let hue := (t.x - 360 * (t.x / 360).floor) / 360
  let s := t.y / 100
  let l := t.z / 100
  let m2 := if l ≤ 0.5 then l * (s + 1) else l + s - l * s
  let m1 := l * 2 - m2
  ⟨channel m1 m2 (hue * 3 + 1), channel m1 m2 (hue * 3), channel m1 m2 (hue * 3 - 1)⟩

/-- A gray has no hue. -/
def ofSrgb (t : Triple) : Triple :=
  let most := greater (greater t.x t.y) t.z
  let least := lesser (lesser t.x t.y) t.z
  let l := (least + most) / 2
  let d := most - least
  if d == 0 then ⟨0 / 0, 0, l * 100⟩
  else
    let s := if l == 0 || l == 1 then 0 else (most - l) / lesser l (1 - l)
    let h :=
      if most == t.x then (t.y - t.z) / d + (if t.y < t.z then 6 else 0)
      else if most == t.y then (t.z - t.x) / d + 2
      else (t.x - t.y) / d + 4
    ⟨h * 60, s * 100, l * 100⟩

end Hsl

namespace Hwb

def toSrgb (t : Triple) : Triple :=
  let w := t.y / 100
  let b := t.z / 100
  if w + b ≥ 1 then
    let gray := w / (w + b)
    ⟨gray, gray, gray⟩
  else
    let x := 1 - w - b
    (Hsl.toSrgb ⟨t.x, 100, 50⟩).map fun c => c * x + w

def ofSrgb (t : Triple) : Triple :=
  let whiteness := lesser (lesser t.x t.y) t.z
  let blackness := 1 - greater (greater t.x t.y) t.z
  ⟨(Hsl.ofSrgb t).x, whiteness * 100, blackness * 100⟩

end Hwb

def srgbToXyz (t : Triple) : Triple :=
  Srgb.linearToXyz.apply (t.map Srgb.toLinear)

def xyzToSrgb (t : Triple) : Triple :=
  (Srgb.xyzToLinear.apply t).map Srgb.ofLinear

/-- The coordinates of a color under the light of a screen. -/
def toXyz (space : Space) (t : Triple) : Triple :=
  match space with
  | .srgb => srgbToXyz t
  | .srgbLinear => Srgb.linearToXyz.apply t
  | .displayP3 => DisplayP3.linearToXyz.apply (t.map Srgb.toLinear)
  | .a98 => A98.linearToXyz.apply (t.map A98.toLinear)
  | .prophoto => d50ToD65.apply (ProPhoto.linearToXyzD50.apply (t.map ProPhoto.toLinear))
  | .rec2020 => Rec2020.linearToXyz.apply (t.map Rec2020.toLinear)
  | .xyzD50 => d50ToD65.apply t
  | .xyzD65 => t
  | .lab => d50ToD65.apply (Lab.toXyzD50 t)
  | .lch => d50ToD65.apply (Lab.toXyzD50 (Polar.toAxes t))
  | .oklab => Oklab.toXyz t
  | .oklch => Oklab.toXyz (Polar.toAxes t)
  | .hsl => srgbToXyz (Hsl.toSrgb t)
  | .hwb => srgbToXyz (Hwb.toSrgb t)

def ofXyz (space : Space) (t : Triple) : Triple :=
  match space with
  | .srgb => xyzToSrgb t
  | .srgbLinear => Srgb.xyzToLinear.apply t
  | .displayP3 => (DisplayP3.xyzToLinear.apply t).map Srgb.ofLinear
  | .a98 => (A98.xyzToLinear.apply t).map A98.ofLinear
  | .prophoto => (ProPhoto.xyzD50ToLinear.apply (d65ToD50.apply t)).map ProPhoto.ofLinear
  | .rec2020 => (Rec2020.xyzToLinear.apply t).map Rec2020.ofLinear
  | .xyzD50 => d65ToD50.apply t
  | .xyzD65 => t
  | .lab => Lab.ofXyzD50 (d65ToD50.apply t)
  | .lch => Polar.ofAxes (Lab.ofXyzD50 (d65ToD50.apply t))
  | .oklab => Oklab.ofXyz t
  | .oklch => Polar.ofAxes (Oklab.ofXyz t)
  | .hsl => Hsl.ofSrgb (xyzToSrgb t)
  | .hwb => Hwb.ofSrgb (xyzToSrgb t)

/-- The coordinates in standard RGB of the spaces that are defined by it. -/
def nearSrgb? (space : Space) (t : Triple) : Option Triple :=
  match space with
  | .srgb => some t
  | .srgbLinear => some (t.map Srgb.ofLinear)
  | .hsl => some (Hsl.toSrgb t)
  | .hwb => some (Hwb.toSrgb t)
  | _ => none

def ofNearSrgb? (space : Space) (t : Triple) : Option Triple :=
  match space with
  | .srgb => some t
  | .srgbLinear => some (t.map Srgb.toLinear)
  | .hsl => some (Hsl.ofSrgb t)
  | .hwb => some (Hwb.ofSrgb t)
  | _ => none

/-- The same color in another space, by the shortest way there. -/
def convert (source target : Space) (t : Triple) : Triple :=
  match source, target with
  | .lab, .lch => Polar.ofAxes t
  | .oklab, .oklch => Polar.ofAxes t
  | .lch, .lab => Polar.toAxes t
  | .oklch, .oklab => Polar.toAxes t
  | _, _ =>
    match (nearSrgb? source t).bind (ofNearSrgb? target) with
    | some result => result
    | none => ofXyz target (toXyz source t)

/-- The color in another space. Missing components stay missing only in the same one. -/
def Shade.to (target : Space) (shade : Shade) : Shade :=
  if shade.space = target then shade
  else ⟨target, convert shade.space target shade.coords.present, present shade.alpha⟩

/-- Whether a space has limits. -/
def Space.bounded : Space → Bool
  | .srgb | .srgbLinear | .displayP3 | .a98 | .prophoto | .rec2020 | .hsl | .hwb => true
  | _ => false

def between (high x : Float32) : Bool :=
  0 ≤ x && x ≤ high

def inGamut (space : Space) (t : Triple) : Bool :=
  match space with
  | .hsl | .hwb => between 100 t.y && between 100 t.z
  | _ => !space.bounded || (between 1 t.x && between 1 t.y && between 1 t.z)

def clip (space : Space) (t : Triple) : Triple :=
  match space with
  | .hsl | .hwb => ⟨t.x, clamp 0 100 t.y, clamp 0 100 t.z⟩
  | _ => if space.bounded then t.map (clamp 0 1) else t

def distance (s t : Triple) : Float32 :=
  let d : Triple := ⟨s.x - t.x, s.y - t.y, s.z - t.z⟩
  (d.dot d).sqrt

/-- Halves an interval of chroma until the color at its end can hardly be told from one inside the
gamut. The number of halvings is bounded by the precision of the chroma. -/
def reduceChroma (space : Space) (l h : Float32) : Nat → Float32 → Float32 → Float32 → Triple
  | 0, _, _, last => convert .oklch space ⟨l, last, h⟩
  | steps + 1, least, most, last =>
    if most - least > 0.00001 then
      let chroma := (least + most) / 2
      let converted := convert .oklch space ⟨l, chroma, h⟩
      if inGamut space converted then reduceChroma space l h steps chroma most chroma
      else
        let clipped := clip space converted
        if distance (convert space .oklab clipped) (Polar.toAxes ⟨l, chroma, h⟩) < 0.02 then clipped
        else reduceChroma space l h steps least chroma chroma
    else convert .oklch space ⟨l, last, h⟩

/-- The nearest color inside the limits of the space with the same lightness and hue. -/
def mapGamut (space : Space) (t : Triple) : Triple :=
  let current := convert space .oklch t
  if (current.x - 1).abs < 0.00001 || current.x > 1 then convert .oklch space ⟨1, 0, 0⟩
  else if current.x < 0.00001 then convert .oklch space ⟨0, 0, 0⟩
  else reduceChroma space current.x current.z 64 0 current.y current.y

/-- The color with nothing missing and inside the limits of its space. -/
def Shade.resolved (shade : Shade) : Shade :=
  let t := shade.coords.present
  ⟨shade.space, if inGamut shade.space t then t else mapGamut shade.space t, present shade.alpha⟩

end ThemeSense.Css
