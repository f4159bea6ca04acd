import ThemeSense.Decimal.Reading
import ThemeSense.Json.Lexing

namespace ThemeSense.Json.Strict

def escapes : List (Char × Char) :=
  [('"', '"'), ('\\', '\\'), ('/', '/'), ('b', '\x08'), ('f', '\x0c'), ('n', '\n'), ('r', '\r'), ('t', '\t')]

/-- The rest of a string after its opening quote and the number of characters up to and including
its closing quote. Surrogates must come in pairs. -/
def string? : List Char → Option (List Char × Nat)
  | [] => none
  | '"' :: _ => some ([], 1)
  | '\\' :: 'u' :: a :: b :: c :: d :: rest =>
    match Hex.number? [a, b, c, d] with
    | none => none
    | some n =>
      if isLowSurrogate n then none
      else if isHighSurrogate n then
        match rest with
        | '\\' :: 'u' :: e :: f :: g :: h :: rest =>
          match Hex.number? [e, f, g, h] with
          | none => none
          | some m =>
            if isLowSurrogate m then
              prepend [Char.ofNat (0x10000 + (n - 0xD800) * 0x400 + (m - 0xDC00))] 12 (string? rest)
            else none
        | _ => none
      else prepend [Char.ofNat n] 6 (string? rest)
  | '\\' :: c :: rest =>
    match escapes.lookup c with
    | none => none
    | some value => prepend [value] 2 (string? rest)
  | c :: rest => if c.toNat < 0x20 then none else prepend [c] 1 (string? rest)

/-- The number of characters through the closing quote of a string after its opening one, whose
surrogates need no partner. -/
def stringLength? : List Char → Option Nat
  | [] => none
  | '"' :: _ => some 1
  | '\\' :: 'u' :: a :: b :: c :: d :: rest =>
    if (Hex.number? [a, b, c, d]).isSome then (stringLength? rest).map (· + 6) else none
  | '\\' :: c :: rest =>
    if (escapes.lookup c).isSome then (stringLength? rest).map (· + 2) else none
  | c :: rest => if c.toNat < 0x20 then none else (stringLength? rest).map (· + 1)

/-- A significand that stops growing before it leaves 64 bits. -/
def grow (significand : Nat) (digit : Char) : Option Nat :=
  let next := 10 * significand + (digit.toNat - 48)
  if next < Nat.pow 2 64 then some next else none

/-- Digits before the point: those that no longer fit only raise the exponent. -/
def wholePart : List Char → Nat → Nat × Nat
  | [], significand => (significand, 0)
  | digit :: rest, significand =>
    match grow significand digit with
    | some next => wholePart rest next
    | none => (significand, rest.length + 1)

/-- Digits after the point: those that no longer fit are ignored. -/
def fractionPart : List Char → Nat → Int → Nat × Int
  | [], significand, exponent => (significand, exponent)
  | digit :: rest, significand, exponent =>
    match grow significand digit with
    | some next => fractionPart rest next (exponent - 1)
    | none => (significand, exponent)

def powerOfTen (n : Nat) : Float :=
  Float.ofScientific 1 false n

/-- Scales a double by a power of ten in steps that a double can hold; overflow has no result. -/
def scaled? : Nat → Float → Int → Option Float
  | 0, x, _ => some x
  | steps + 1, x, exponent =>
    if exponent.natAbs ≤ 308 then
      if exponent ≥ 0 then
        let product := x * powerOfTen exponent.natAbs
        if product.isInf then none else some product
      else some (x / powerOfTen exponent.natAbs)
    else if x == 0 then some x
    else if exponent ≥ 0 then none
    else scaled? steps (x / powerOfTen 308) (exponent + 308)

/-- The double of a literal with a point or an exponent: its leading 64 bits, then scaled. -/
def double? (literal : DecimalLiteral) : Option Float :=
  let (whole, raised) := wholePart literal.whole 0
  let (significand, lowered) := fractionPart literal.fraction whole raised
  (scaled? 4 (Float.ofNat significand) (lowered + literal.exponent)).map fun x =>
    if literal.negative then -x else x

/-- A literal without point and exponent is whole if 64 bits hold it. -/
def whole? (literal : DecimalLiteral) : Option Number :=
  let n := digitsValue literal.whole
  if n < Nat.pow 2 64 ∧ !literal.negative then some (.int n)
  else if 0 < n ∧ n ≤ Nat.pow 2 63 ∧ literal.negative then some (.int (-n))
  else if n < Nat.pow 2 64 then some (.float (-(Float.ofNat n)))
  else (double? literal).map .float

/-- An optional exponent: its value and length, nothing if its digits are missing. -/
def exponent? : List Char → Option (Option Int × Nat)
  | e :: rest =>
    if e = 'e' ∨ e = 'E' then
      let (negative, sign) := exponentSign rest
      let digits := (rest.drop sign).takeWhile Char.isDigit
      let value : Int := digitsValue digits
      if digits.isEmpty then none
      else some (some (if negative then -value else value), 1 + sign + digits.length)
    else some (none, 0)
  | [] => some (none, 0)

/-- An optional point with digits, at least one of which must be there. -/
def fraction? : List Char → Option (Option (List Char))
  | '.' :: rest =>
    let digits := rest.takeWhile Char.isDigit
    if digits.isEmpty then none else some (some digits)
  | _ => some none

/-- A number at the start of the text and its length. One beyond the doubles has no value. -/
def number? (cs : List Char) : Option (Option Number × Nat) := do
  let negative := cs.head? = some '-'
  let unsigned := if negative then cs.drop 1 else cs
  let whole := unsigned.takeWhile Char.isDigit
  if whole.isEmpty || (whole.head? = some '0' && whole.length > 1) then none
  else
    let rest := unsigned.drop whole.length
    let fraction ← fraction? rest
    let rest := rest.drop ((fraction.map (·.length + 1)).getD 0)
    let (exponent, exponentLength) ← exponent? rest
    let literal : DecimalLiteral := ⟨negative, whole, fraction.getD [], exponent.getD 0⟩
    let number := if fraction.isNone && exponent.isNone then whole? literal else (double? literal).map .float
    some (number, cs.length - rest.length + exponentLength)

def recognise : Recogniser := fun c rest =>
  if c = ' ' ∨ c = '\t' ∨ c = '\n' ∨ c = '\r' then some (none, 0)
  else if c = '"' then
    match string? rest with
    | some (text, taken) => some (some (.text (String.ofList text)), taken)
    | none => (stringLength? rest).map (some .valueless, ·)
  else if c = '-' ∨ c.isDigit then
    (number? (c :: rest)).map fun (number, taken) =>
      (some (match number with | some n => .scalar (.num n) | none => .valueless), taken - 1)
  else if c.isAlpha then
    let tail := rest.takeWhile Char.isAlphanum
    some (some (.word (String.ofList (c :: tail))), tail.length)
  else (punctuation? c).map fun token => (some token, 0)

def word? : String → Option Json
  | "null" => some .null
  | "true" => some (.bool true)
  | "false" => some (.bool false)
  | _ => none

def dialect (overlooks : String → Bool) : Dialect :=
  ⟨word?, false, false, some 128, overlooks⟩

end Strict

/-- Reads a document in standard notation, where the values of overlooked members need only be
well-formed. -/
def parseOverlooking? (overlooks : String → Bool) (text : String) : Option Json :=
  (tokens? Strict.recognise text.toList).bind (ofTokens? (Strict.dialect overlooks))

/-- Reads a document in standard notation. -/
def parse? (text : String) : Option Json :=
  parseOverlooking? (fun _ => false) text

end ThemeSense.Json
