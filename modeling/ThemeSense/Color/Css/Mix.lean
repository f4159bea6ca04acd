import ThemeSense.Color.Css.Space

namespace ThemeSense.Css

/-- Which way round the circle a mix of two hues takes. -/
inductive HueArc where
  | shorter
  | longer
  | increasing
  | decreasing
  | specified
deriving DecidableEq

def HueArc.ofName? : String → Option HueArc
  | "shorter" => some .shorter
  | "longer" => some .longer
  | "increasing" => some .increasing
  | "decreasing" => some .decreasing
  | "specified" => some .specified
  | _ => none

/-- The angle between zero and a full turn. -/
def turn (h : Float32) : Float32 :=
  h - 360 * (h / 360).floor

def HueArc.adjust (arc : HueArc) (a b : Float32) : Float32 × Float32 :=
  let d := turn b - turn a
  match arc with
  | .specified => (a, b)
  | .shorter =>
    if d > 180 then (turn a + 360, turn b) else if d < -180 then (turn a, turn b + 360) else (turn a, turn b)
  | .longer =>
    if 0 < d && d < 180 then (turn a + 360, turn b)
    else if -180 < d && d ≤ 0 then (turn a, turn b + 360) else (turn a, turn b)
  | .increasing => if d < 0 then (turn a, turn b + 360) else (turn a, turn b)
  | .decreasing => if d > 0 then (turn a + 360, turn b) else (turn a, turn b)

def isTiny (x : Float32) : Bool :=
  x.abs < 1.1920929e-7

/-- A component that has no effect in a converted color counts as missing. -/
def powerless (shade : Shade) : Shade :=
  let t := shade.coords
  let nan : Float32 := 0 / 0
  match shade.space with
  | .lab | .oklab => if isTiny t.x then { shade with coords := ⟨t.x, nan, nan⟩ } else shade
  | .lch | .oklch =>
    if isTiny t.x then { shade with coords := ⟨t.x, nan, nan⟩ }
    else if isTiny t.y then { shade with coords := ⟨t.x, t.y, nan⟩ } else shade
  | .hsl =>
    if isTiny t.z || isTiny (t.z - 100) then { shade with coords := ⟨nan, nan, t.z⟩ }
    else if isTiny t.y then { shade with coords := ⟨nan, t.y, t.z⟩ } else shade
  | .hwb => if isTiny (t.y + t.z - 100) then { shade with coords := ⟨nan, t.y, t.z⟩ } else shade
  | _ => shade

/-- A color as one side of a mix. -/
def Shade.mixable (space : Space) (shade : Shade) : Shade :=
  if shade.space = space then shade
  else
    let converted := shade.to space
    let t := converted.coords
    powerless { converted with coords := if inGamut space t then t else mapGamut space t }

def fill (x y : Float32) : Float32 :=
  if x.isNaN then y else x

/-- Takes what is missing from the other side. -/
def Shade.filled (shade other : Shade) : Shade :=
  let s := shade.coords
  let t := other.coords
  { shade with coords := ⟨fill s.x t.x, fill s.y t.y, fill s.z t.z⟩, alpha := fill shade.alpha other.alpha }

def Space.hasHue (space : Space) : Bool :=
  space == .lch || space == .oklch || space == .hsl || space == .hwb

/-- Multiplies every coordinate but a hue. -/
def weigh (space : Space) (factor : Float32) (t : Triple) : Triple :=
  match space with
  | .hsl | .hwb => ⟨t.x, t.y * factor, t.z * factor⟩
  | .lch | .oklch => ⟨t.x * factor, t.y * factor, t.z⟩
  | _ => ⟨t.x * factor, t.y * factor, t.z * factor⟩

def withHues (space : Space) (arc : HueArc) (s t : Triple) : Triple × Triple :=
  match space with
  | .hsl | .hwb =>
    let (a, b) := arc.adjust s.x t.x
    ({ s with x := a }, { t with x := b })
  | .lch | .oklch =>
    let (a, b) := arc.adjust s.z t.z
    ({ s with z := a }, { t with z := b })
  | _ => (s, t)

/-- Mixes two colors by weights whose sum, if it is below one, makes the result less opaque. -/
def mix (space : Space) (arc : HueArc) (first : Shade) (p : Float32) (second : Shade) (q : Float32) : Shade :=
  let a := first.mixable space
  let b := second.mixable space
  let a' := a.filled b
  let b' := b.filled a'
  let (s, t) := withHues space arc a'.coords b'.coords
  let s := if a'.alpha.isNaN then s else weigh space a'.alpha s
  let t := if b'.alpha.isNaN then t else weigh space b'.alpha t
  let total := p + q
  let p := if total == 1 then p else p / total
  let q := if total == 1 then q else q / total
  let blend (x y : Float32) : Float32 := x * p + y * q
  let mixed : Triple := ⟨blend s.x t.x, blend s.y t.y, blend s.z t.z⟩
  let alpha := blend a'.alpha b'.alpha
  if alpha.isNaN || alpha == 0 then ⟨space, mixed, alpha⟩
  else ⟨space, weigh space (1 / alpha) mixed, alpha * (if total > 1 then 1 else total)⟩

end ThemeSense.Css
