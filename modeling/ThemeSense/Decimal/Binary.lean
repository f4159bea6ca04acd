namespace ThemeSense

/-- A binary floating-point value as exact numbers: `mantissa * 2 ^ exponent`. At `narrowBelow` the
neighbour below is only half as far away as the one above. -/
inductive Binary where
  | finite (negative : Bool) (mantissa : Nat) (exponent : Int) (narrowBelow : Bool)
  | infinite (negative : Bool)
  | undefined

/-- Reads the sign, exponent and fraction fields of an interchange format. -/
def Binary.ofFields (fractionWidth exponentWidth : Nat) (pattern : Nat) : Binary :=
  let fraction := pattern % Nat.pow 2 fractionWidth
  let biased := pattern / Nat.pow 2 fractionWidth % Nat.pow 2 exponentWidth
  let negative := pattern / Nat.pow 2 (fractionWidth + exponentWidth) % 2 == 1
  let bias : Int := Int.pow 2 (exponentWidth - 1) - 1 + fractionWidth
  if biased == Nat.pow 2 exponentWidth - 1 then
    if fraction == 0 then .infinite negative else .undefined
  else if biased == 0 then .finite negative fraction (1 - bias) false
  else .finite negative (Nat.pow 2 fractionWidth + fraction) (biased - bias) (fraction == 0 && biased > 1)

def Binary.ofDouble (x : Float) : Binary :=
  .ofFields 52 11 x.toBits.toNat

def Binary.ofSingle (x : Float32) : Binary :=
  .ofFields 23 8 x.toBits.toNat

end ThemeSense
