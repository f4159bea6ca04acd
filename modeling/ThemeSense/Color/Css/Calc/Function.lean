import ThemeSense.Color.Css.Calc.Basic

namespace ThemeSense.Css

/-- Which multiple a value is rounded to. -/
inductive Rounding where
  | nearest
  | up
  | down
  | towardZero

namespace Rounding

def ofName? : String → Option Rounding
  | "nearest" => some .nearest
  | "up" => some .up
  | "down" => some .down
  | "to-zero" => some .towardZero
  | _ => none

def toWhole : Rounding → Float32 → Float32
  | .nearest, x => x.round
  | .up, x => x.ceil
  | .down, x => x.floor
  | .towardZero, x => if x < 0 then x.ceil else x.floor

def toMultiple (rounding : Rounding) (x step : Float32) : Float32 :=
  rounding.toWhole (x / step) * step

end Rounding

/-- What is left of a division toward zero. Double precision holds the product exactly. -/
def remainder (x y : Float32) : Float32 :=
  let x := x.toFloat
  let y := y.toFloat
  let quotient := x / y
  if y.isInf then x.toFloat32
  else (x - y * (if quotient < 0 then quotient.ceil else quotient.floor)).toFloat32

/-- What is left of a division, with the sign of the divisor. -/
def modulus (x y : Float32) : Float32 :=
  remainder (remainder x y + y) y

def hypotenuse (x y : Float32) : Float32 :=
  (x.toFloat * x.toFloat + y.toFloat * y.toFloat).sqrt.toFloat32

/-- One, its negative, or a zero with its sign. -/
def signum (x : Float32) : Float32 :=
  if x == 0 || x.isNaN then x else signOf x

/-- The functions of two like values. -/
def binary? : String → Option (Float32 → Float32 → Float32)
  | "rem" => some remainder
  | "mod" => some modulus
  | _ => none

/-- The functions of an angle, which a plain number gives in radians. -/
def ofAngle? : String → Option (Float32 → Float32)
  | "sin" => some Float32.sin
  | "cos" => some Float32.cos
  | "tan" => some Float32.tan
  | _ => none

/-- The functions of a plain number that give an angle in radians. -/
def toAngle? : String → Option (Float32 → Float32)
  | "asin" => some Float32.asin
  | "acos" => some Float32.acos
  | "atan" => some Float32.atan
  | _ => none

/-- The functions from plain numbers to plain numbers. -/
def ofPlain? : String → Option (Float32 → Float32)
  | "sqrt" => some Float32.sqrt
  | "exp" => some Float32.exp
  | _ => none

namespace Calc

def value? : Calc → Option Float32
  | .value x => some x
  | .number _ => none

/-- The values of the kind, unless a plain number or one that is not a number is among them. -/
def comparable? (terms : List Calc) : Option (List Float32) :=
  (terms.mapM value?).bind fun xs => if xs.any Float32.isNaN then none else some xs

def smaller (x y : Float32) : Float32 :=
  if y < x then y else x

def larger (x y : Float32) : Float32 :=
  if y > x then y else x

/-- Combines values of the kind; plain numbers are not combined. -/
def extreme (choose : Float32 → Float32 → Float32) (terms : List Calc) : Option Calc :=
  match terms, comparable? terms with
  | [term], _ => some term
  | _, some (x :: rest) => some (.value (rest.foldl choose x))
  | _, _ => none

/-- Of contradictory limits the lower one holds. -/
def limited (low x high : Calc) : Option Calc :=
  match comparable? [low, x, high] with
  | some [low, x, high] => some (.value (larger (smaller x high) low))
  | _ => none

def norm (kind : Kind) : List Calc → Option Calc
  | [] => none
  | [x] => some x
  | [x, y] => x.combine hypotenuse y
  | x :: rest => do
    let square ← x.apply kind fun x => x * x
    let sum ← rest.foldlM (fun sum y => sum.combine (fun s y => s + y * y) y) square
    sum.apply kind Float32.sqrt

/-- The sign of a value is a plain number. -/
def sign (kind : Kind) (x : Calc) : Option Calc :=
  (x.apply kind signum).map fun s => .number s.plain

def sineOf (f : Float32 → Float32) : Calc → Calc
  | .number x => .number (f x)
  | .value x => .number (f (x * radiansPerDegree))

/-- An angle in radians where a calculation is about angles. -/
def ofRadians (kind : Kind) (x : Float32) : Option Calc :=
  if kind = .angle then some (.value (x * degreesPerRadian)) else none

/-- The angle whose sine, or another such function, is a plain number. -/
def arc (kind : Kind) (f : Float32 → Float32) : Calc → Option Calc
  | .number x => if (f x).isNaN then some (.number (f x)) else ofRadians kind (f x)
  | .value _ => none

end Calc

end ThemeSense.Css
