import ThemeSense.Decimal.Fixed
import ThemeSense.Decimal.Shortest
import ThemeSense.Text.Hex

namespace ThemeSense

/-- A color with eight bits a channel. -/
structure Rgba where
  red : UInt8
  green : UInt8
  blue : UInt8
  alpha : UInt8
deriving Repr, DecidableEq

/-- Why a text is not a color. -/
inductive ColorError where
  | empty
  | invalidLength (digits : Nat)
  | invalidHex (c : Char)
  | notCss
deriving Repr, DecidableEq

def ColorError.message : ColorError → String
  | .empty => "empty color string"
  | .invalidLength digits => s!"invalid color length {digits}, expected 3, 4, 6, or 8"
  | .invalidHex c => s!"invalid hex character '{c}'"
  | .notCss => "CSS parse error"

namespace Rgba

/-- A channel of one digit, which counts twice. -/
def doubled (digit : Nat) : UInt8 :=
  UInt8.ofNat (17 * digit)

def paired (high low : Nat) : UInt8 :=
  UInt8.ofNat (16 * high + low)

def ofDigits : List Nat → Except ColorError Rgba
  | [r, g, b] => .ok ⟨doubled r, doubled g, doubled b, 255⟩
  | [r, g, b, a] => .ok ⟨doubled r, doubled g, doubled b, doubled a⟩
  | [r, r', g, g', b, b'] => .ok ⟨paired r r', paired g g', paired b b', 255⟩
  | [r, r', g, g', b, b', a, a'] => .ok ⟨paired r r', paired g g', paired b b', paired a a'⟩
  | digits => .error (.invalidLength digits.length)

def hexDigits : List Char → Except ColorError (List Nat)
  | [] => .ok []
  | c :: rest =>
    match Hex.value? c with
    | none => .error (.invalidHex c)
    | some digit => (hexDigits rest).map (digit :: ·)

/-- Reads the digits of a hexadecimal color. A wrong digit counts before a wrong number of them. -/
def ofHex (digits : List Char) : Except ColorError Rgba :=
  (hexDigits digits).bind ofDigits

/-- The nearest of 256 steps, a half going away from zero; values outside are cut off. -/
def channel (x : Float32) : UInt8 :=
  (x * 255).round.toUInt8

def ofUnits (r g b a : Float32) : Rgba :=
  ⟨channel r, channel g, channel b, channel a⟩

def unit (c : UInt8) : Float32 :=
  c.toFloat32 / 255

/-- The channels as parts of one. -/
def units (color : Rgba) : List Float32 :=
  [unit color.red, unit color.green, unit color.blue, unit color.alpha]

def hexPair (c : UInt8) : List Char :=
  [(Nat.digitChar (c.toNat / 16)).toUpper, (Nat.digitChar (c.toNat % 16)).toUpper]

/-- Six or eight digits; an opaque color needs no alpha. -/
def hexText (color : Rgba) : String :=
  let alpha := if color.alpha = 255 then [] else hexPair color.alpha
  String.ofList ('#' :: hexPair color.red ++ hexPair color.green ++ hexPair color.blue ++ alpha)

/-- The text of channels between zero and one in functional notation. -/
def functionalText (r g b a : Float32) : String :=
  let base := s!"{(channel r).toNat}, {(channel g).toNat}, {(channel b).toNat}"
  if a ≥ 0.999 then s!"rgb({base})"
  else s!"rgba({base}, " ++ String.ofList (Binary.ofSingle a).twoPlaces ++ ")"

end Rgba

end ThemeSense
