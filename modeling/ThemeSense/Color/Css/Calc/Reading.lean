import ThemeSense.Color.Css.Calc.Function
import ThemeSense.Color.Css.Reader

namespace ThemeSense.Css

namespace Calc

/-- An operation that may have no value, as a reader. -/
def lift (result : Option Calc) : Reader Calc := fun tokens =>
  result.map (·, tokens)

/-- The way to round, if one is named. -/
def rounding : Reader Rounding := do
  let named : Reader Rounding := do
    let name ← Reader.ident
    fun tokens => (Rounding.ofName? name).map (·, tokens)
  match ← Reader.optional named with
  | some rounding =>
    Reader.comma
    pure rounding
  | none => pure .nearest

mutual

/-- A mathematical function. The first argument bounds the nesting and the length of what it reads. -/
def function (kind : Kind) (names : Names) : Nat → Reader Calc
  | 0 => failure
  | fuel + 1 => do
    match ← Reader.function with
    | "calc" => Reader.block (sum kind names fuel)
    | "min" => lift (extreme smaller (← Reader.block (arguments kind names fuel)))
    | "max" => lift (extreme larger (← Reader.block (arguments kind names fuel)))
    | "clamp" => Reader.block do
      let low ← sum kind names fuel
      Reader.tightComma
      let (x, high) ← pair kind names fuel
      lift (limited low x high)
    | "round" => Reader.block do
      let rounding ← rounding
      let (x, step) ← pair kind names fuel
      lift (x.combine rounding.toMultiple step)
    | "hypot" => lift (norm kind (← Reader.block (arguments kind names fuel)))
    | "abs" => lift ((← Reader.block (sum kind names fuel)).apply kind Float32.abs)
    | "sign" => lift ((← Reader.block (sum kind names fuel)).sign kind)
    | "pow" => Reader.block do
      let (x, y) ← pair .number names.plain fuel
      pure (.number (x.plain.pow y.plain))
    | "log" => Reader.block do
      let x ← sum .number names.plain fuel
      if ← Reader.succeeds Reader.comma then
        let base ← sum .number names.plain fuel
        pure (.number (x.plain.log / base.plain.log))
      else pure (.number x.plain.log)
    | "atan2" => Reader.block do
      let (y, x) ← pair .percentage noNames fuel <|> pair .angle noNames fuel <|> pair .number names.plain fuel
      let ratio ← lift (y.combine Float32.atan2 x)
      lift (ofRadians kind ratio.plain)
    | name =>
      match binary? name, ofAngle? name, toAngle? name, ofPlain? name with
      | some f, _, _, _ => Reader.block do
        let (x, y) ← pair kind names fuel
        lift (x.combine f y)
      | _, some f, _, _ => sineOf f <$> Reader.block (sum .angle names.plain fuel)
      | _, _, some f, _ => lift (arc kind f (← Reader.block (sum .angle names.plain fuel)))
      | _, _, _, some f => (fun x => .number (f x.plain)) <$> Reader.block (sum .number names.plain fuel)
      | _, _, _, _ => failure

/-- Two arguments of a function that takes a fixed number of them. -/
def pair (kind : Kind) (names : Names) : Nat → Reader (Calc × Calc)
  | 0 => failure
  | fuel + 1 => do
    let first ← sum kind names fuel
    Reader.tightComma
    pure (first, ← sum kind names fuel)

/-- The arguments of a function that takes any number of them. -/
def arguments (kind : Kind) (names : Names) : Nat → Reader (List Calc)
  | 0 => failure
  | fuel + 1 => do
    let first ← sum kind names fuel
    if ← Reader.succeeds Reader.comma then
      pure (first :: (← arguments kind names fuel))
    else pure [first]

/-- Terms between which a plus or minus stands, with space before it. Space at the end is allowed
at the end of a block and before a comma, where it is left. -/
def sum (kind : Kind) (names : Names) : Nat → Reader Calc
  | 0 => failure
  | fuel + 1 => do
    sumRest kind names fuel (← product kind names fuel)

def sumRest (kind : Kind) (names : Names) : Nat → Calc → Reader Calc
  | 0, _ => failure
  | fuel + 1, left => fun tokens =>
    match tokens with
    | .space :: rest =>
      match Reader.dropSpace rest with
      | .delim '+' :: rest => (do
          let right ← product kind names fuel
          sumRest kind names fuel (← lift (left.add right))) rest
      | .delim '-' :: rest => (do
          let right ← product kind names fuel
          sumRest kind names fuel (← lift (left.add (right.scale (-1))))) rest
      | [] => some (left, [])
      | .parenClose :: rest => some (left, .parenClose :: rest)
      | .comma :: _ => some (left, tokens)
      | _ => none
    | _ => some (left, tokens)

def product (kind : Kind) (names : Names) : Nat → Reader Calc
  | 0 => failure
  | fuel + 1 => do
    productRest kind names fuel (← factor kind names fuel)

def productRest (kind : Kind) (names : Names) : Nat → Calc → Reader Calc
  | 0, _ => failure
  | fuel + 1, left => fun tokens =>
    match Reader.dropSpace tokens with
    | .delim '*' :: rest => (do
        let right ← factor kind names fuel
        productRest kind names fuel (← lift (left.multiply right))) rest
    | .delim '/' :: rest => (do
        let right ← factor kind names fuel
        productRest kind names fuel (← lift (left.divide right))) rest
    | _ => some (left, tokens)

def factor (kind : Kind) (names : Names) : Nat → Reader Calc
  | 0 => failure
  | fuel + 1 => function kind names fuel <|> do
    match ← Reader.next with
    | .parenOpen => Reader.block (sum kind names fuel)
    | .ident name =>
      let name := lowerCase name
      match constant? name with
      | some x => pure (.number x)
      | none => lift (names name)
    | token => lift (literal? kind token)

end

/-- A calculation at this place. Every rule it goes through takes a token or is one of six between
tokens. -/
def read (kind : Kind) (names : Names) : Reader Calc := fun tokens =>
  function kind names (8 * tokens.length + 8) tokens

end Calc

/-- A plain number, written out or calculated. -/
def number : Reader Float32 := do
  match ← Reader.optional (Calc.read .number noNames) with
  | some (.number x) => pure x
  | some (.value x) => pure x
  | none => match ← Reader.next with
    | .number x => pure x
    | _ => failure

/-- A percentage as a part of one. -/
def percentage : Reader Float32 := do
  match ← Reader.optional (Calc.read .percentage noNames) with
  | some (.value x) => pure x
  | some (.number _) => failure
  | none => match ← Reader.next with
    | .percentage x => pure x
    | _ => failure

/-- An angle in degrees. -/
def angle : Reader Float32 := do
  match ← Reader.optional (Calc.read .angle noNames) with
  | some (.value x) => pure x
  | some (.number _) => failure
  | none => match ← Reader.next with
    | .dimension x unit => fun tokens => (degrees? x unit).map (·, tokens)
    | _ => failure

end ThemeSense.Css
