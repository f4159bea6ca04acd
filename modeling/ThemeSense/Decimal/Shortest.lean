import ThemeSense.Decimal.Binary

namespace ThemeSense

/-- The decimal `digits * 10 ^ exponent`. -/
structure Decimal where
  digits : Nat
  exponent : Int
deriving Repr, DecidableEq

/-- The places of a quotient's decimal expansion: the least `e` with `num / den < 10 ^ e` is at most
this number and at least one less. -/
def magnitude (num den : Nat) : Int :=
  ((Nat.toDigits 10 num).length : Int) - (Nat.toDigits 10 den).length + 1

/-- The multiple of `10 ^ e` nearest to `num / den` that lies between the bounds, with a half going
up. All three quotients share `den`; the bounds themselves belong to the interval if `closed`. -/
def gridPoint? (low num high den : Nat) (closed : Bool) (e : Int) : Option Nat :=
  let scale := Nat.pow 10 e.natAbs
  let unit := if e < 0 then 1 else scale
  let factor := if e < 0 then scale else 1
  let whole := den * unit
  let below := num * factor / whole
  let inside (k : Nat) : Bool :=
    let point := k * whole
    if closed then low * factor ≤ point && point ≤ high * factor
    else low * factor < point && point < high * factor
  let up := num * factor - below * whole
  match inside below, inside (below + 1) with
  | true, true => some (if 2 * up < whole then below else below + 1)
  | true, false => some below
  | false, true => some (below + 1)
  | false, false => none

/-- The first grid that meets the interval, from the coarse ones to the fine ones. -/
def firstGrid (low num high den : Nat) (closed : Bool) : Nat → Int → Decimal
  | 0, e => ⟨num * Nat.pow 10 e.natAbs / den, e⟩
  | tries + 1, e =>
    match gridPoint? low num high den closed e with
    | some digits => ⟨digits, e⟩
    | none => firstGrid low num high den closed tries (e - 1)

/-- The fewest digits that read back as `mantissa * 2 ^ exponent`, and of those the nearest. -/
def Decimal.shortest (mantissa : Nat) (exponent : Int) (narrowBelow : Bool) : Decimal :=
  if mantissa = 0 then ⟨0, 0⟩
  else
    let scale := Nat.pow 2 exponent.natAbs
    let num := 4 * mantissa * (if exponent < 0 then 1 else scale)
    let unit := if exponent < 0 then 1 else scale
    let den := 4 * (if exponent < 0 then scale else 1)
    let low := num - (if narrowBelow then 1 else 2) * unit
    firstGrid low num (num + 2 * unit) den (mantissa % 2 == 0) 20 (magnitude num den)

/-- Positional notation, with neither an exponent nor zeros after the last place. -/
def Decimal.positional (d : Decimal) : List Char :=
  let text := Nat.toDigits 10 d.digits
  if d.exponent ≥ 0 then text ++ (if d.digits = 0 then [] else List.replicate d.exponent.toNat '0')
  else
    let places := d.exponent.natAbs
    let padded := List.replicate (places + 1 - text.length) '0' ++ text
    padded.take (padded.length - places) ++ '.' :: padded.drop (padded.length - places)

/-- The text of a value in positional notation with the fewest digits that read back. -/
def Binary.text : Binary → List Char
  | .finite negative mantissa exponent narrowBelow =>
    let text := (Decimal.shortest mantissa exponent narrowBelow).positional
    if negative then '-' :: text else text
  | .infinite negative => if negative then "-inf".toList else "inf".toList
  | .undefined => "NaN".toList

end ThemeSense
