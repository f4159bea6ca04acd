import ThemeSense.Decimal.Binary

namespace ThemeSense

/-- The whole number nearest to `num / den`, a half going to the even neighbour. -/
def roundToEven (num den : Nat) : Nat :=
  let below := num / den
  let double := 2 * (num % den)
  if double < den then below
  else if double > den then below + 1
  else below + below % 2

/-- A whole number of hundredths written with two places. -/
def hundredthsText (n : Nat) : List Char :=
  let places := n % 100
  Nat.toDigits 10 (n / 100) ++ '.' :: Nat.digitChar (places / 10) :: [Nat.digitChar (places % 10)]

/-- Exactly two places; the exact value decides and a half goes to the even neighbour. -/
def Binary.twoPlaces : Binary → List Char
  | .finite negative mantissa exponent _ =>
    let scale := Nat.pow 2 exponent.natAbs
    let hundredths :=
      if exponent < 0 then roundToEven (100 * mantissa) scale else 100 * mantissa * scale
    let text := hundredthsText hundredths
    if negative then '-' :: text else text
  | .infinite negative => if negative then "-inf".toList else "inf".toList
  | .undefined => "NaN".toList

end ThemeSense
