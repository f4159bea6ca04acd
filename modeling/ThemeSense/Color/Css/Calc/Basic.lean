import ThemeSense.Color.Css.Space
import ThemeSense.Color.Css.Token
import ThemeSense.Color.Named

namespace ThemeSense.Css

/-- What a calculation is about besides plain numbers. -/
inductive Kind where
  | number
  | percentage
  | angle
deriving DecidableEq

/-- The value of a calculation: a plain number, or one in the unit of its kind. Percentages are parts
of one and angles degrees. -/
inductive Calc where
  | number (x : Float32)
  | value (x : Float32)

namespace Calc

def scale (factor : Float32) : Calc → Calc
  | .number x => .number (x * factor)
  | .value x => .value (x * factor)

/-- Only like can be combined with like. -/
def combine (op : Float32 → Float32 → Float32) : Calc → Calc → Option Calc
  | .number x, .number y => some (.number (op x y))
  | .value x, .value y => some (.value (op x y))
  | _, _ => none

def add : Calc → Calc → Option Calc :=
  combine (· + ·)

/-- One of the factors has to be a plain number. -/
def multiply : Calc → Calc → Option Calc
  | c, .number y => some (c.scale y)
  | .number x, c => some (c.scale x)
  | _, _ => none

/-- The divisor has to be a plain number other than zero. -/
def divide : Calc → Calc → Option Calc
  | c, .number y => if y == 0 then none else some (c.scale (1 / y))
  | _, _ => none

/-- Applies a function. What a percentage is a part of is not known, so it has no value there. -/
def apply (kind : Kind) (f : Float32 → Float32) : Calc → Option Calc
  | .number x => some (.number (f x))
  | .value x => if kind = .percentage then none else some (.value (f x))

def plain : Calc → Float32
  | .number x => x
  | .value x => x

end Calc

def degreesPerRadian : Float32 :=
  180 / pi

def radiansPerDegree : Float32 :=
  pi / 180

def degrees? (value : Float32) (unit : String) : Option Float32 :=
  match lowerCase unit with
  | "deg" => some value
  | "grad" => some (value * 180 / 200)
  | "rad" => some (value * degreesPerRadian)
  | "turn" => some (value * 360)
  | _ => none

def constant? : String → Option Float32
  | "e" => some 2.71828182845904523536
  | "pi" => some pi
  | "infinity" => some (1 / 0)
  | "-infinity" => some (-1 / 0)
  | "nan" => some (0 / 0)
  | _ => none

/-- A token that is a value of its own. -/
def literal? (kind : Kind) : Token → Option Calc
  | .number x => some (.number x)
  | .percentage x => if kind = .percentage then some (.value x) else none
  | .dimension x unit => if kind = .angle then (degrees? x unit).map .value else none
  | _ => none

/-- The names that a calculation may use beside the constants. -/
abbrev Names := String → Option Calc

def noNames : Names :=
  fun _ => none

/-- The names that stand for plain numbers. -/
def Names.plain (names : Names) : Names := fun name =>
  match names name with
  | some (.number x) => some (.number x)
  | _ => none

end ThemeSense.Css
