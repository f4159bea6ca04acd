import ThemeSense.Text.Hex
import ThemeSense.Text.Pattern
import ThemeSense.Text.Position

namespace ThemeSense

/-- How a stylesheet mentions a color: by a name after `@color`, or by hexadecimal digits anywhere. -/
inductive MentionKind where
  | theme
  | hex
deriving Repr, DecidableEq

/-- A mention of a color and the byte offset at which it starts. -/
structure Mention where
  kind : MentionKind
  name : List Char
  start : Nat
deriving Repr, DecidableEq

namespace Mention

def stop (mention : Mention) : Nat :=
  mention.start + Text.bytes mention.name

def range (text : List Char) (mention : Mention) : Range :=
  ⟨Position.ofByte text mention.start, Position.ofByte text mention.stop⟩

end Mention

namespace ColorUse

def keyword : List Char :=
  "@color".toList

def isTargetChar (c : Char) : Bool :=
  c.isLower || c == '-'

def isNameChar (c : Char) : Bool :=
  c.isAlphanum || c == '.' || c == '_' || c == '-'

def properties : List String :=
  ["fg", "bg", "fill", "stroke", "border"]

def blanks : Pattern :=
  .run isBlank 1 none

/-- One of the five properties, or one side of the border under any name. -/
def targets : Pattern :=
  properties.foldr (fun property others => .either (.word property.toList) others)
    (.chain (.word "border-".toList) (.run isTargetChar 1 none))

def names : Pattern :=
  .run isNameChar 1 none

/-- A use of `@color` up to the end of the color's name, with a group for the target and one for the name. -/
def pattern : Pattern :=
  .chain (.word keyword) (.chain blanks (.chain (.group targets) (.chain blanks (.group names))))

end ColorUse

/-- A hexadecimal color: `#` and three to eight digits, up to the edge of a word. -/
def hexLiteral : Pattern :=
  .chain (.word ['#']) (.chain (.group (.run Hex.isDigit 3 (some 8))) .wordEdge)

namespace Mention

/-- What the second group of a use of `@color` mentions. -/
def ofColorUse? (use : Pattern.Occurrence) : Option Mention :=
  use.found.groups[1]?.map fun name => ⟨.theme, name.2, use.start + Text.bytes name.1⟩

/-- What a hexadecimal color mentions as a whole. -/
def ofHexLiteral (literal : Pattern.Occurrence) : Mention :=
  ⟨.hex, literal.found.taken, literal.start⟩

/-- Every mention of a color: names first, then hexadecimal colors. -/
def all (text : List Char) : List Mention :=
  (ColorUse.pattern.occurrences 0 none 0 text).filterMap ofColorUse? ++
    (hexLiteral.occurrences 0 none 0 text).map ofHexLiteral

end Mention

end ThemeSense
