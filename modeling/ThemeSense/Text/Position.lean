import ThemeSense.Text.Blank

namespace ThemeSense

/-- A place in a document: a zero-based line and a column counted in UTF-16 code units. -/
structure Position where
  line : Nat
  character : Nat
deriving Repr, DecidableEq

structure Range where
  start : Position
  stop : Position
deriving Repr, DecidableEq

namespace Text

/-- How many UTF-16 code units a character takes. -/
def charUnits (c : Char) : Nat :=
  if c.toNat < 0x10000 then 1 else 2

def units (cs : List Char) : Nat :=
  cs.foldr (charUnits · + ·) 0

def bytes (cs : List Char) : Nat :=
  cs.foldr (Char.utf8Size · + ·) 0

/-- The characters that start before byte `count`. -/
def takeBytes : List Char → Nat → List Char
  | [], _ => []
  | c :: rest, count => if count = 0 then [] else c :: takeBytes rest (count - c.utf8Size)

/-- The first `count` bytes of the text, or all of it when it is shorter. A count that ends
inside a character has no answer. -/
def takeBytes? (cs : List Char) (count : Nat) : Option (List Char) :=
  let taken := takeBytes cs count
  if bytes taken ≤ count then some taken else none

/-- The characters that start before UTF-16 column `column`. -/
def takeUnits : List Char → Nat → List Char
  | [], _ => []
  | c :: rest, column => if column = 0 then [] else c :: takeUnits rest (column - charUnits c)

/-- The byte offset of a UTF-16 column: the first character boundary at or after it, and the
end of the line when the line is shorter. -/
def byteOfColumn (line : List Char) (column : Nat) : Nat :=
  bytes (takeUnits line column)

/-- The UTF-16 column of a byte offset. -/
def columnOfByte? (line : List Char) (offset : Nat) : Option Nat :=
  (takeBytes? line offset).map units

/-- A line of the text without its terminator, empty when there is no such line. -/
def lineAt (text : List Char) (line : Nat) : List Char :=
  match (split '\n' text)[line]? with
  | none => []
  | some content => if content.getLast? = some '\r' then content.dropLast else content

/-- The line up to the position. -/
def linePrefix (text : List Char) (position : Position) : List Char :=
  takeUnits (lineAt text position.line) position.character

end Text

/-- Where the cursor stands after one more character. -/
def Position.next (position : Position) (c : Char) : Position :=
  if c = '\n' then ⟨position.line + 1, 0⟩
  else ⟨position.line, position.character + Text.charUnits c⟩

/-- Where the cursor stands after the whole text. -/
def Position.afterText (text : List Char) : Position :=
  text.foldl Position.next ⟨0, 0⟩

/-- The position of a byte offset: the first character boundary at or after it, and the end of the
text when the text is shorter. -/
def Position.ofByte (text : List Char) (offset : Nat) : Position :=
  Position.afterText (Text.takeBytes text offset)

/-- The position of a byte offset that is not inside a character. -/
def Position.ofByte? (text : List Char) (offset : Nat) : Option Position :=
  (Text.takeBytes? text offset).map Position.afterText

end ThemeSense
