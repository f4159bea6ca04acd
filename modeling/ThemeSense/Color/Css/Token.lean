import ThemeSense.Text.Hex

namespace ThemeSense.Css

/-- A lexical unit of a CSS value. Only those that a color can hold are here. -/
inductive Token where
  | ident (name : String)
  | function (name : String)
  | hash (name : String)
  | number (value : Float32)
  | percentage (unit : Float32)
  | dimension (value : Float32) (unit : String)
  | delim (c : Char)
  | comma
  | parenOpen
  | parenClose
  | space
deriving Repr, BEq

def isSpace (c : Char) : Bool :=
  c == ' ' || c == '\t' || c == '\n' || c == '\r' || c == '\x0c'

def isNewline (c : Char) : Bool :=
  c == '\n' || c == '\r' || c == '\x0c'

/-- Letters, the underscore, everything outside ASCII and the null character start a name. -/
def isNameStart (c : Char) : Bool :=
  c.isAlpha || c == '_' || c.toNat ≥ 0x80 || c == '\x00'

def isNameChar (c : Char) : Bool :=
  isNameStart c || c.isDigit || c == '-'

/-- A backslash that does not stand before a line end. -/
def startsEscape : List Char → Bool
  | '\\' :: c :: _ => !isNewline c
  | '\\' :: [] => true
  | _ => false

def startsName : List Char → Bool
  | '-' :: rest => rest.head?.any (fun c => isNameStart c || c == '-') || startsEscape rest
  | cs => cs.head?.any isNameStart || startsEscape cs

/-- The character of a code point that was written in digits. -/
def codePoint (n : Nat) : Char :=
  if n = 0 ∨ (0xD800 ≤ n ∧ n ≤ 0xDFFF) ∨ n > 0x10FFFF then '\uFFFD' else Char.ofNat n

/-- One space after the digits of an escape belongs to it. -/
def escapeSpace : List Char → Nat
  | '\r' :: '\n' :: _ => 2
  | c :: _ => if isSpace c then 1 else 0
  | [] => 0

/-- What an escape stands for after its backslash, and its length. -/
def escape : List Char → Char × Nat
  | [] => ('\uFFFD', 0)
  | c :: rest =>
    if Hex.isDigit c then
      let digits := ((c :: rest).takeWhile Hex.isDigit).take 6
      let length := digits.length
      (codePoint ((Hex.number? digits).getD 0), length + escapeSpace ((c :: rest).drop length))
    else if c = '\x00' then ('\uFFFD', 1)
    else (c, 1)

/-- The name at the start of the text and its length. -/
def nameAt : List Char → List Char × Nat
  | [] => ([], 0)
  | c :: rest =>
    if startsEscape (c :: rest) then
      let (value, taken) := escape rest
      let (name, length) := nameAt (rest.drop taken)
      (value :: name, length + taken + 1)
    else if isNameChar c then
      let (name, length) := nameAt rest
      ((if c = '\x00' then '\uFFFD' else c) :: name, length + 1)
    else ([], 0)
termination_by cs => cs.length
decreasing_by all_goals simp only [List.length_drop, List.length_cons]; omega

def startsNumber : List Char → Bool
  | '.' :: rest => rest.head?.any Char.isDigit
  | c :: rest =>
    if c = '+' ∨ c = '-' then match rest with
      | '.' :: rest => rest.head?.any Char.isDigit
      | d :: _ => d.isDigit
      | [] => false
    else c.isDigit
  | [] => false

def digitValue (c : Char) : Float :=
  Float.ofNat (c.toNat - 48)

def wholePart (digits : List Char) : Float :=
  digits.foldl (fun n d => n * 10 + digitValue d) 0

/-- Digits after the point, each weighed by a factor that shrinks by a tenth. -/
def fractionPart : List Char → Float → Float → Float
  | [], _, sum => sum
  | d :: rest, factor, sum => fractionPart rest (factor * 0.1) (sum + digitValue d * factor)

/-- The digits of an exponent with its sign, and the length of all of it. -/
def exponentAt? : List Char → Option (Float × Nat)
  | e :: rest =>
    if e = 'e' ∨ e = 'E' then
      let signed := rest.head?.any fun c => c == '+' || c == '-'
      let digits := (if signed then rest.drop 1 else rest).takeWhile Char.isDigit
      let value := wholePart digits
      if digits.isEmpty then none
      else some (if rest.head? = some '-' then -value else value, digits.length + (if signed then 2 else 1))
    else none
  | [] => none

/-- The value of the number at the start of the text, in double precision, and its length. -/
def numberAt (cs : List Char) : Float × Nat :=
  let signed := cs.head?.any fun c => c == '+' || c == '-'
  let unsigned := if signed then cs.drop 1 else cs
  let whole := unsigned.takeWhile Char.isDigit
  let rest := unsigned.drop whole.length
  let fraction := match rest with
    | '.' :: rest => rest.takeWhile Char.isDigit
    | _ => []
  let pointLength := if fraction.isEmpty then 0 else fraction.length + 1
  let magnitude := wholePart whole + fractionPart fraction 0.1 0
  let value := if cs.head? = some '-' then -magnitude else magnitude
  let length := (if signed then 1 else 0) + whole.length + pointLength
  match exponentAt? (rest.drop pointLength) with
  | some (exponent, exponentLength) => (value * Float.pow 10 exponent, length + exponentLength)
  | none => (value, length)

/-- A number, percentage or dimension and its length. -/
def numericAt (cs : List Char) : Token × Nat :=
  let (value, length) := numberAt cs
  let rest := cs.drop length
  if rest.head? = some '%' then (.percentage (value / 100).toFloat32, length + 1)
  else if startsName rest then
    let (unit, unitLength) := nameAt rest
    (.dimension value.toFloat32 (String.ofList unit), length + unitLength)
  else (.number value.toFloat32, length)

/-- A comment after its opening. One that is not closed reaches to the end. -/
def commentLength : List Char → Nat
  | '*' :: '/' :: _ => 2
  | _ :: rest => commentLength rest + 1
  | [] => 0

/-- The token that begins with `c`, if it is not a comment, and how many of the characters that
follow belong to it. Text that no color holds has no tokens. -/
def recognise (c : Char) (rest : List Char) : Option (Option Token × Nat) :=
  let cs := c :: rest
  if isSpace c then some (some .space, (rest.takeWhile isSpace).length)
  else if c = '/' ∧ rest.head? = some '*' then some (none, 1 + commentLength (rest.drop 1))
  else if startsNumber cs then
    let (token, length) := numericAt cs
    some (some token, length - 1)
  else if startsName cs then
    let (name, length) := nameAt cs
    if (cs.drop length).head? = some '(' then some (some (.function (String.ofList name)), length)
    else some (some (.ident (String.ofList name)), length - 1)
  else if c = '#' then
    let (name, length) := nameAt rest
    if length = 0 then none else some (some (.hash (String.ofList name)), length)
  else if c = ',' then some (some .comma, 0)
  else if c = '(' then some (some .parenOpen, 0)
  else if c = ')' then some (some .parenClose, 0)
  else if c = '/' ∨ c = '*' ∨ c = '+' ∨ c = '-' then some (some (.delim c), 0)
  else none

def tokens? : List Char → Option (List Token)
  | [] => some []
  | c :: rest =>
    match recognise c rest with
    | none => none
    | some (token, taken) => (tokens? (rest.drop taken)).map (token.toList ++ ·)
termination_by cs => cs.length
decreasing_by simp only [List.length_drop, List.length_cons]; omega

end ThemeSense.Css
