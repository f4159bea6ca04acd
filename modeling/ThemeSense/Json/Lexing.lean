import ThemeSense.Json.Token
import ThemeSense.Text.Hex

namespace ThemeSense.Json

/-- Recognises one lexical unit from its first character and what follows: the token, if it is not
mere space, and how many of the following characters belong to it. -/
abbrev Recogniser := Char → List Char → Option (Option Token × Nat)

/-- Cuts a text into tokens. -/
def tokens? (recognise : Recogniser) : List Char → Option (List Token)
  | [] => some []
  | c :: rest =>
    match recognise c rest with
    | none => none
    | some (token, taken) => (tokens? recognise (rest.drop taken)).map (token.toList ++ ·)
termination_by cs => cs.length
decreasing_by simp only [List.length_drop, List.length_cons]; omega

def punctuation? (c : Char) : Option Token :=
  match c with
  | '{' => some .braceOpen
  | '}' => some .braceClose
  | '[' => some .bracketOpen
  | ']' => some .bracketClose
  | ',' => some .comma
  | ':' => some .colon
  | _ => none

def isHighSurrogate (n : Nat) : Bool :=
  0xD800 ≤ n && n ≤ 0xDBFF

def isLowSurrogate (n : Nat) : Bool :=
  0xDC00 ≤ n && n ≤ 0xDFFF

/-- Whether an exponent is negative, and the length of its sign. -/
def exponentSign : List Char → Bool × Nat
  | '-' :: _ => (true, 1)
  | '+' :: _ => (false, 1)
  | _ => (false, 0)

/-- Puts characters in front of a string that has been read and counts what they took. -/
def prepend (cs : List Char) (count : Nat) (tail : Option (List Char × Nat)) : Option (List Char × Nat) :=
  tail.map fun (text, taken) => (cs ++ text, taken + count)

end ThemeSense.Json
