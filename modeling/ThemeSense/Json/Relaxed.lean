import ThemeSense.Decimal.Reading
import ThemeSense.Json.Lexing
import ThemeSense.Text.Letter

namespace ThemeSense.Json.Relaxed

def isLineEnd (c : Char) : Bool :=
  c == '\n' || c == '\r' || c == '\u2028' || c == '\u2029'

/-- Space between tokens: tab, vertical tab, form feed, space separators, the byte order mark and
line ends. -/
def isSpace (c : Char) : Bool :=
  let n := c.toNat
  n == 0x09 || n == 0x0B || n == 0x0C || n == 0x20 || n == 0xA0 || n == 0xFEFF || n == 0x1680 ||
    (0x2000 ≤ n && n ≤ 0x200A) || n == 0x202F || n == 0x205F || n == 0x3000 || isLineEnd c

def escapes : List (Char × Char) :=
  [('b', '\x08'), ('f', '\x0c'), ('n', '\n'), ('r', '\r'), ('t', '\t'), ('v', '\x0b'), ('0', '\x00')]

/-- The code point of a surrogate pair. The two halves are joined bit by bit, without a carry. -/
def joinSurrogates (high low : Nat) : Char :=
  Char.ofNat (((high - 0xD800) <<< 10) ||| ((low - 0xDC00) + 0x10000))

/-- A character that stands for four hexadecimal digits, or the high half that it must follow. -/
def unit? (pending : Option Nat) (digits : List Char) : Option (List Char × Option Nat) :=
  match pending, Hex.number? digits with
  | some high, some n => if isLowSurrogate n then some ([joinSurrogates high n], none) else none
  | none, some n =>
    if isLowSurrogate n then none
    else if isHighSurrogate n then some ([], some n)
    else some ([Char.ofNat n], none)
  | _, none => none

/-- The rest of a string after its opening quote and the number of characters up to and including
its closing quote. `pending` is a high surrogate that waits for its other half. -/
def string? (quote : Char) : Option Nat → List Char → Option (List Char × Nat)
  | _, [] => none
  | pending, '\\' :: '\r' :: '\n' :: rest => prepend [] 3 (string? quote pending rest)
  | pending, '\\' :: 'u' :: a :: b :: c :: d :: rest =>
    match unit? pending [a, b, c, d] with
    | none => none
    | some (text, pending) => prepend text 6 (string? quote pending rest)
  | none, '\\' :: 'x' :: a :: b :: rest =>
    match Hex.number? [a, b] with
    | none => none
    | some n => prepend [Char.ofNat n] 4 (string? quote none rest)
  | pending, '\\' :: c :: rest =>
    if isLineEnd c then prepend [] 2 (string? quote pending rest)
    else if pending.isSome || c = 'u' || c = 'x' || ('1' ≤ c ∧ c ≤ '9') then none
    else prepend [(escapes.lookup c).getD c] 2 (string? quote none rest)
  | pending, c :: rest =>
    if pending.isSome || isLineEnd c || c = '\\' then none
    else if c = quote then some ([], 1)
    else prepend [c] 1 (string? quote none rest)

/-- The characters of a name and how many were taken; escapes count as letters. -/
def name? : Option Nat → List Char → Option (List Char × Nat)
  | pending, '\\' :: 'u' :: a :: b :: c :: d :: rest =>
    match unit? pending [a, b, c, d] with
    | none => none
    | some (text, pending) => prepend text 6 (name? pending rest)
  | pending, c :: rest =>
    if pending.isSome || c = '\\' then none
    else if isLetter c || c = '$' || isNameTail c then
      prepend [c] 1 (name? none rest)
    else some ([], 0)
  | pending, [] => if pending.isSome then none else some ([], 0)

/-- A block comment after its opening: the number of characters through its end. -/
def blockComment? : List Char → Option Nat
  | '*' :: '/' :: _ => some 2
  | _ :: rest => (blockComment? rest).map (· + 1)
  | [] => none

/-- An exponent, if one with digits stands here, and its length. -/
def exponent : List Char → Option Int × Nat
  | e :: rest =>
    let (negative, sign) := exponentSign rest
    let digits := (rest.drop sign).takeWhile Char.isDigit
    let value : Int := digitsValue digits
    if (e = 'e' ∨ e = 'E') ∧ !digits.isEmpty then
      (some (if negative then -value else value), 1 + sign + digits.length)
    else (none, 0)
  | [] => (none, 0)

/-- Digits before a point: a zero stands alone. -/
def wholeDigits : List Char → List Char
  | '0' :: _ => ['0']
  | cs => cs.takeWhile Char.isDigit

/-- A decimal number without its sign: the literal, whether it is whole, and its length. -/
def decimal? (negative : Bool) (cs : List Char) : Option (DecimalLiteral × Bool × Nat) :=
  let whole := wholeDigits cs
  match cs.drop whole.length with
  | '.' :: rest =>
    let fraction := rest.takeWhile Char.isDigit
    if whole.isEmpty && fraction.isEmpty then none
    else
      let (exponent, taken) := exponent (rest.drop fraction.length)
      some (⟨negative, whole, fraction, exponent.getD 0⟩, false, whole.length + 1 + fraction.length + taken)
  | rest =>
    if whole.isEmpty then none
    else
      let (exponent, taken) := exponent rest
      some (⟨negative, whole, [], exponent.getD 0⟩, exponent.isNone, whole.length + taken)

/-- Whole numbers have 64 bits with a sign, all others must be finite doubles. -/
def decimalValue? (literal : DecimalLiteral) (whole : Bool) : Option Json :=
  if whole then
    let n : Int := digitsValue literal.whole
    let n := if literal.negative then -n else n
    if -Int.pow 2 63 ≤ n ∧ n < Int.pow 2 63 then some (.num (.int n)) else none
  else
    let x := literal.toDouble
    if x.isFinite then some (.num (.float x)) else none

/-- Hexadecimal digits, of which 32 bits may be given. -/
def hexLiteral? (digits : List Char) : Option (Json × Nat) :=
  match Hex.number? digits with
  | some n => if !digits.isEmpty ∧ n < Nat.pow 2 32 then some (.num (.int n), digits.length + 2) else none
  | none => none

def decimalScalar? (negative : Bool) (cs : List Char) : Option (Json × Nat) :=
  (decimal? negative cs).bind fun (literal, whole, taken) =>
    (decimalValue? literal whole).map (·, taken)

/-- A number without a sign and its length. -/
def unsigned? (cs : List Char) : Option (Json × Nat) :=
  match cs with
  | '0' :: x :: rest =>
    if (x = 'x' ∨ x = 'X') ∧ (rest.head?.any Hex.isDigit) then hexLiteral? (rest.takeWhile Hex.isDigit)
    else decimalScalar? false cs
  | _ => decimalScalar? false cs

/-- A number after its sign and its length. What is not a finite number reads as null, and takes
a minus only. -/
def signed? (negative : Bool) (cs : List Char) : Option (Json × Nat) :=
  match cs with
  | '0' :: x :: _ => if x = 'x' ∨ x = 'X' then none else decimalScalar? negative cs
  | _ =>
    if negative && "Infinity".toList.isPrefixOf cs then some (.null, 8)
    else if negative && "NaN".toList.isPrefixOf cs then some (.null, 3)
    else decimalScalar? negative cs

def scalar (result : Option (Json × Nat)) : Option (Option Token × Nat) :=
  result.map fun (value, taken) => (some (.scalar value), taken)

def recognise : Recogniser := fun c rest =>
  if isSpace c then some (none, 0)
  else if c = '/' then
    match rest with
    | '/' :: rest => some (none, 1 + (rest.takeWhile (!isLineEnd ·)).length)
    | '*' :: rest => (blockComment? rest).map fun taken => (none, taken + 1)
    | _ => none
  else if c = '"' ∨ c = '\'' then
    (string? c none rest).map fun (text, taken) => (some (.text (String.ofList text)), taken)
  else if c = '+' ∨ c = '-' then scalar (signed? (c == '-') rest)
  else if c.isDigit ∨ c = '.' then
    (unsigned? (c :: rest)).map fun (value, taken) => (some (.scalar value), taken - 1)
  else if isLetter c || c = '$' || c = '_' || c = '\\' then
    (name? none (c :: rest)).bind fun (text, taken) =>
      if taken = 0 then none
      else if text.length = taken then some (some (.word (String.ofList text)), taken - 1)
      else some (some (.name (String.ofList text)), taken - 1)
  else (punctuation? c).map fun token => (some token, 0)

/-- Infinities and the undefined number read as null. -/
def word? : String → Option Json
  | "null" => some .null
  | "true" => some (.bool true)
  | "false" => some (.bool false)
  | "Infinity" => some .null
  | "NaN" => some .null
  | _ => none

def dialect : Dialect :=
  ⟨word?, true, true, none, fun _ => false⟩

end Relaxed

/-- Reads a document in the JSON5 notation. -/
def parseRelaxed? (text : String) : Option Json :=
  (tokens? Relaxed.recognise text.toList).bind (ofTokens? Relaxed.dialect)

end ThemeSense.Json
