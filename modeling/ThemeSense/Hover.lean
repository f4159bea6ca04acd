import ThemeSense.Collection
import ThemeSense.Completion.Provider
import ThemeSense.Cursor.Word

namespace ThemeSense.Hover

def code (text : String) : String :=
  Collection.code text

def collection (name expression : String) (breakpoints : Table String) : String :=
  s!"### Breakpoint Collection: {name}\n\n**Value:** {code expression}\n\n**Definition:**\n\n" ++
    (Collection.parse expression).describe breakpoints

def breakpoint (name value : String) : String :=
  s!"### Breakpoint: {name}\n\n**Value:** {code value}\n\n**Media Query Equivalent:**\n\n" ++
    cssBlock ("@media (min-width: " ++ value ++ ") \x7b\n  /* styles */\n\x7d")

def familyLine (font : String) : String :=
  let font := cssFontName font
  s!"<div style=\"font-family: {font}; margin-bottom: 10px;\">{font}: {previewText}</div>"

def family (name : String) (family : FontFamily) : String :=
  let block := cssBlock s!"font-family: {family.css};"
  s!"### Font Family: {name}\n\n{block}#### Preview:\n" ++ String.join (family.fonts.map familyLine)

def sizeLine (breakpoint : String) (size : SizeValue) : String :=
  let preview := size.preview?.getD ""
  s!"<div style=\"font-size: {preview}; margin-bottom: 8px;\">{breakpoint}: Text at {size.display}</div>"

def size (name : String) (size : FontSize) : String :=
  let title := s!"### Font Size: {name}\n\n"
  match size with
  | .fixed value =>
    let block := cssBlock s!"font-size: {value};"
    s!"{title}{block}#### Preview:\n<div style=\"font-size: {value};\">Text at {value}</div>"
  | .responsive sizes =>
    title ++ "Responsive font sizes across breakpoints:\n\n" ++ sizeTable sizes ++ "\n\n#### Preview:\n" ++
      String.join (sizes.map fun (breakpoint, value) => sizeLine breakpoint value)

def color (name value : String) : String :=
  let hex := hexColor value
  let shown := if hex = value then "" else s!"\n**Hex:** {code hex}\n"
  s!"### Color: {name}\n\n**Value:** {code value}\n{shown}"

/-- What is known about a token without looking at colors. -/
def plain? (theme : Theme) (token : String) (line : List Char) : Option String :=
  let collection? :=
    if token.toList.head? = some '$' then
      (theme.collections.get? token).map fun expression => collection token expression theme.breakpoints
    else none
  let fonts? :=
    if Text.holds "@font".toList line then
      (theme.families.get? token).map (family token) <|> (theme.sizes.get? token).map (size token)
    else none
  collection? <|> (theme.breakpoint? token).map (breakpoint token) <|> fonts?

end Hover

/-- An explanation of a token on a line in Markdown, and the theme as looking at it leaves it. -/
def Theme.hover (theme : Theme) (token : String) (line : List Char) : Option String × Theme :=
  match Hover.plain? theme token line with
  | some text => (some text, theme)
  | none =>
    if Text.holds "@color".toList line then
      let (table, theme) := theme.resolveColors
      ((table.bind (·.lookup token)).map (Hover.color token), theme)
    else (none, theme)

/-- The word at a position of a document with its explanation. -/
def Theme.hoverAt (theme : Theme) (text : List Char) (position : Position) : Option (WordSpan × String) × Theme :=
  let line := Text.lineAt text position.line
  match wordAt? line position.character with
  | none => (none, theme)
  | some span =>
    let (answer, theme) := theme.hover (String.ofList span.word) line
    (answer.map (span, ·), theme)

end ThemeSense
