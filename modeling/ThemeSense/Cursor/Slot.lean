import ThemeSense.Text.Position

namespace ThemeSense

/-- What belongs at the cursor. -/
inductive Slot where
  | atRuleName
  | colorTarget
  | colorValue
  | fontFamily
  | fontSize
  | breakpoint
  | spacingValue
  | outside
deriving Repr, DecidableEq

def Slot.name : Slot → String
  | .atRuleName => "AT_RULE_NAME"
  | .colorTarget => "COLOR_TARGET"
  | .colorValue => "COLOR_VALUE"
  | .fontFamily => "FONT_FAMILY"
  | .fontSize => "FONT_SIZE"
  | .breakpoint => "BREAKPOINT"
  | .spacingValue => "SPACING_VALUE"
  | .outside => "NONE"

/-- The targets that `@color` takes. -/
def colorTargets : List String :=
  ["fg", "bg", "fill", "stroke", "border", "border-top", "border-bottom", "border-left", "border-right"]

/-- A piece of an invocation on one line. -/
inductive Piece where
  | keyword (text : List Char)
  | choice (words : List (List Char))
  | run (member : Char → Bool)
  | single (member : Char → Bool)

/-- What is left after each non-empty stretch of members at the start of the text. -/
def runRests (member : Char → Bool) : List Char → List (List Char)
  | [] => []
  | c :: rest => if member c then rest :: runRests member rest else []

/-- What is left of the text after each way in which the piece can stand at its start. -/
def Piece.rests : Piece → List Char → List (List Char)
  | .keyword text, cs => (Text.after? text cs).toList
  | .choice words, cs => words.filterMap (Text.after? · cs)
  | .run member, cs => runRests member cs
  | .single member, cs => match cs with
    | [] => []
    | c :: rest => if member c then [rest] else []

/-- Whether the whole text splits into the pieces. -/
def fits : List Piece → List Char → Bool
  | [], cs => cs.isEmpty
  | piece :: pieces, cs => (piece.rests cs).any (fits pieces)

/-- Whether some end of the text splits into the pieces. -/
def fitsEnd (pieces : List Piece) : List Char → Bool
  | [] => fits pieces []
  | c :: rest => fits pieces (c :: rest) || fitsEnd pieces rest

/-- A kind of line that leaves a slot open. Some count only on lines that start with an at-rule. -/
structure SlotRule where
  atRuleLine : Bool
  pieces : List Piece
  slot : Slot

namespace SlotRule

def isAliasChar (c : Char) : Bool :=
  c.isAlphanum || c == '_'

def isPropertyChar (c : Char) : Bool :=
  c.isAlphanum || c == '_' || c == '-'

def isLengthChar (c : Char) : Bool :=
  c.isAlphanum || c == '_' || c == '.' || c == '-'

def blanks : Piece :=
  .run isBlank

def blank : Piece :=
  .single isBlank

def keyword (text : String) : Piece :=
  .keyword text.toList

/-- The rules in the order in which they are tried. -/
def all : List SlotRule := [
  ⟨false, [keyword "@color", blank], .colorTarget⟩,
  ⟨false, [keyword "@color", blanks, .choice (colorTargets.map String.toList), blank], .colorValue⟩,
  ⟨true, [keyword "@font", blank], .fontFamily⟩,
  ⟨true, [keyword "@font", blanks, .run isAliasChar, blank], .fontSize⟩,
  ⟨true, [keyword "@fontsize", blank], .fontSize⟩,
  ⟨true, [keyword "@responsive", blank], .breakpoint⟩,
  ⟨true, [keyword "@column", blanks, .run (!isBlank ·), blank], .breakpoint⟩,
  ⟨true, [keyword "@space", blanks, .run isPropertyChar, blank], .spacingValue⟩,
  ⟨true, [keyword "@space", blanks, .run isPropertyChar, blanks, .run isLengthChar, blank], .breakpoint⟩,
  ⟨true, [keyword "@font", blanks, .run isAliasChar, blanks, .run isAliasChar, blank], .breakpoint⟩,
  ⟨true, [keyword "@fontsize", blanks, .run isAliasChar, blank], .breakpoint⟩,
  ⟨true, [keyword "@responsive", blanks, .run (· ≠ '\n'), blank], .breakpoint⟩]

def applies (before : List Char) (rule : SlotRule) : Bool :=
  (!rule.atRuleLine || (Text.trim before).head? = some '@') && fitsEnd rule.pieces before

end SlotRule

/-- The slot at the end of a line prefix: the first rule that applies decides. -/
def Slot.ofPrefix (before : List Char) : Slot :=
  if before.getLast? = some '@' then .atRuleName
  else match SlotRule.all.find? (SlotRule.applies before) with
    | some rule => rule.slot
    | none => if before.all isBlank then .atRuleName else .outside

/-- What belongs at a position of a document. -/
def slotAt (text : List Char) (position : Position) : Slot :=
  Slot.ofPrefix (Text.linePrefix text position)

end ThemeSense
