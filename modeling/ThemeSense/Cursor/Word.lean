import ThemeSense.Text.Position

namespace ThemeSense

/-- The characters that end a word: space and `;`, braces and parentheses. -/
def isWordBoundary (c : Char) : Bool :=
  isBlank c || c == ';' || c == '{' || c == '}' || c == '(' || c == ')'

/-- A word of a line and the byte offsets between which it stands. -/
structure WordSpan where
  start : Nat
  stop : Nat
  word : List Char
deriving Repr, DecidableEq

/-- The longest word that touches a UTF-16 column. -/
def wordAt? (line : List Char) (column : Nat) : Option WordSpan :=
  let before := Text.takeUnits line column
  let after := line.drop before.length
  let head := (before.reverse.takeWhile (!isWordBoundary ·)).reverse
  let tail := after.takeWhile (!isWordBoundary ·)
  let cursor := Text.bytes before
  if head.isEmpty && tail.isEmpty then none
  else some ⟨cursor - Text.bytes head, cursor + Text.bytes tail, head ++ tail⟩

/-- Where a word of one line of a document stands. -/
def WordSpan.range (text : List Char) (line : Nat) (span : WordSpan) : Range :=
  let content := Text.lineAt text line
  let column (offset : Nat) : Nat := Text.units (Text.takeBytes content offset)
  ⟨⟨line, column span.start⟩, ⟨line, column span.stop⟩⟩

end ThemeSense
