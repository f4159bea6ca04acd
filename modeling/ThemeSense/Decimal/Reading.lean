namespace ThemeSense

/-- The value of a run of decimal digits. -/
def digitsValue (digits : List Char) : Nat :=
  digits.foldl (fun n c => 10 * n + (c.toNat - 48)) 0

/-- The double nearest to `digits * 10 ^ exponent`; the far ends need no arithmetic. -/
def nearestDouble (digits : Nat) (exponent : Int) : Float :=
  let places := (Nat.toDigits 10 digits).length + exponent
  if digits = 0 || places < -330 then 0
  else if places > 330 then 1 / 0
  else Float.ofScientific digits (exponent < 0) exponent.natAbs

/-- A decimal literal in parts: sign, digits before and after the point, and exponent. -/
structure DecimalLiteral where
  negative : Bool
  whole : List Char
  fraction : List Char
  exponent : Int

def DecimalLiteral.toDouble (literal : DecimalLiteral) : Float :=
  let digits := digitsValue (literal.whole ++ literal.fraction)
  let magnitude := nearestDouble digits (literal.exponent - literal.fraction.length)
  if literal.negative then -magnitude else magnitude

end ThemeSense
