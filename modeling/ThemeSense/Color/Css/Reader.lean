import ThemeSense.Color.Css.Token
import ThemeSense.Color.Named

namespace ThemeSense.Css

/-- A reader of tokens. One that fails leaves the tokens as they were for another. -/
abbrev Reader := StateT (List Token) Option

namespace Reader

def dropSpace : List Token → List Token
  | .space :: rest => dropSpace rest
  | tokens => tokens

/-- The next token that is not space. A closing parenthesis ends what can be read. -/
def next : Reader Token := fun tokens =>
  match dropSpace tokens with
  | [] => none
  | .parenClose :: _ => none
  | token :: rest => some (token, rest)

/-- Whether the block has ended, be it only by the end of the text. -/
def atEnd : Reader Bool := fun tokens =>
  match dropSpace tokens with
  | [] => some (true, [])
  | .parenClose :: rest => some (true, .parenClose :: rest)
  | rest => some (false, rest)

def expect (token : Token) : Reader Unit := do
  guard ((← next) == token)

def comma : Reader Unit :=
  expect .comma

def ident : Reader String := do
  match ← next with
  | .ident name => pure (lowerCase name)
  | _ => failure

def word (name : String) : Reader Unit := do
  guard ((← ident) = name)

/-- A comma with no space before it. -/
def tightComma : Reader Unit := fun tokens =>
  match tokens with
  | .comma :: rest => some ((), rest)
  | _ => none

def function : Reader String := do
  match ← next with
  | .function name => pure (lowerCase name)
  | _ => failure

def closeBlock : Reader Unit := fun tokens =>
  match dropSpace tokens with
  | [] => some ((), [])
  | .parenClose :: rest => some ((), rest)
  | _ => none

/-- Reads what stands between parentheses, all of it. -/
def block {α : Type} (body : Reader α) : Reader α := do
  let result ← body
  closeBlock
  pure result

def optional {α : Type} (reader : Reader α) : Reader (Option α) := fun tokens =>
  match reader tokens with
  | some (result, rest) => some (some result, rest)
  | none => some (none, tokens)

def succeeds (reader : Reader Unit) : Reader Bool := do
  pure (← optional reader).isSome

end Reader

end ThemeSense.Css
