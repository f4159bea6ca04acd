import ThemeSense.Script.Inline

namespace ThemeSense.Script

/-- One blank, or one comment with its end. A line comment ends with its line, a block comment at
the first `*/` after its opening. -/
inductive Trivium where
  | blank (c : Char) (isBlank : isAsciiBlank c = true)
  | line (content : List Char) (oneLine : '\n' ∉ content)
  | block (content : List Char) (unended : ¬ ['*', '/'] <:+: content)

def Trivium.text : Trivium → List Char
  | .blank c _ => [c]
  | .line content _ => '/' :: '/' :: (content ++ ['\n'])
  | .block content _ => '/' :: '*' :: (content ++ ['*', '/'])

abbrev Trivia := List Trivium

def Trivia.text (trivia : Trivia) : List Char :=
  trivia.flatMap Trivium.text

/-- Whether a text can stand between two quotes. A backslash takes the character after it along,
every other character is neither the quote nor a line end. -/
def fitsQuotes (quote : Char) : List Char → Bool
  | [] => true
  | ['\\'] => false
  | '\\' :: _ :: rest => fitsQuotes quote rest
  | c :: rest => c != '\n' && c != quote && fitsQuotes quote rest

structure Quoted where
  quote : Char
  isQuote : quote = '\'' ∨ quote = '"'
  content : List Char
  fits : fitsQuotes quote content = true

def Quoted.text (quoted : Quoted) : List Char :=
  quoted.quote :: (quoted.content ++ [quoted.quote])

/-- The characters of numbers, `true`, `false` and `null`. -/
def isPlainChar (c : Char) : Bool :=
  isKeyChar c || c == '.' || c == '+' || c == '-'

/-- A string, or a run of plain characters, of which every number, `true`, `false` and `null` is
one. -/
inductive Scalar where
  | quoted (string : Quoted)
  | plain (word : List Char) (nonempty : word ≠ []) (isPlain : word.all isPlainChar = true)

def Scalar.text : Scalar → List Char
  | .quoted string => string.text
  | .plain word _ _ => word

example : ["0", "-1.5e+3", ".5", "0xFF", "true", "false", "null"].all (·.toList.all isPlainChar) = true := by
  decide

inductive Key where
  | quoted (string : Quoted)
  | plain (name : List Char) (nonempty : name ≠ []) (isName : name.all isKeyChar = true)

/-- The name of the property: what stands between the quotes, or the key itself. -/
def Key.name : Key → List Char
  | .quoted string => string.content
  | .plain name _ _ => name

/-- The header of a function without arguments, `() =>`, up to its body. -/
structure ArrowHead where
  inParens : Trivia
  beforeArrow : Trivia
  afterArrow : Trivia

def ArrowHead.rest (head : ArrowHead) : List Char :=
  head.inParens.text ++ ')' :: (head.beforeArrow.text ++ '=' :: '>' :: head.afterArrow.text)

def ArrowHead.text (head : ArrowHead) : List Char :=
  '(' :: head.rest

structure PropertyHead where
  key : Key
  beforeColon : Trivia
  afterColon : Trivia

mutual

/-- A value as it is written in a config. The functions are `() => ( value )` and `() => [ items ]`. -/
inductive Value where
  | scalar (scalar : Scalar)
  | array (items : Items)
  | object (members : Members)
  | function (head : ArrowHead) (before : Trivia) (result : Value) (after : Trivia)
  | listFunction (head : ArrowHead) (items : Items)

/-- What stands in an array. Ending with `next` and `done` is a trailing comma. -/
inductive Items where
  | done (space : Trivia)
  | last (before : Trivia) (value : Value) (after : Trivia)
  | next (before : Trivia) (value : Value) (after : Trivia) (rest : Items)

inductive Members where
  | done (space : Trivia)
  | last (before : Trivia) (head : PropertyHead) (value : Value) (after : Trivia)
  | next (before : Trivia) (head : PropertyHead) (value : Value) (after : Trivia) (rest : Members)

end

/-- A piece of an expression by what inlining does with it. Only a plain key that starts with a
digit is changed, it gets quotes. -/
inductive Piece where
  | kept (text : List Char)
  | dropped (text : List Char)
  | plainKey (name : List Char)

namespace Piece

def text : Piece → List Char
  | kept text => text
  | dropped text => text
  | plainKey name => name

def inlined : Piece → List Char
  | kept text => text
  | dropped _ => []
  | plainKey name => if name.head?.any Char.isDigit then '"' :: (name ++ ['"']) else name

def allText (pieces : List Piece) : List Char :=
  pieces.flatMap text

def allInlined (pieces : List Piece) : List Char :=
  pieces.flatMap inlined

end Piece

def Key.piece : Key → Piece
  | .quoted string => .kept string.text
  | .plain name _ _ => .plainKey name

def PropertyHead.pieces (head : PropertyHead) : List Piece :=
  [head.key.piece, .kept (head.beforeColon.text ++ ':' :: head.afterColon.text)]

mutual

/-- Of a function its header goes, and the parentheses around its result. -/
def Value.pieces : Value → List Piece
  | .scalar scalar => [.kept scalar.text]
  | .array items => .kept ['['] :: (items.pieces ++ [.kept [']']])
  | .object members => .kept ['{'] :: (members.pieces ++ [.kept ['}']])
  | .function head before result after =>
    .dropped (head.text ++ ['(']) :: .kept before.text :: (result.pieces ++ [.kept after.text, .dropped [')']])
  | .listFunction head items => .dropped head.text :: .kept ['['] :: (items.pieces ++ [.kept [']']])

def Items.pieces : Items → List Piece
  | .done space => [.kept space.text]
  | .last before value after => .kept before.text :: (value.pieces ++ [.kept after.text])
  | .next before value after rest =>
    .kept before.text :: (value.pieces ++ .kept (after.text ++ [',']) :: rest.pieces)

def Members.pieces : Members → List Piece
  | .done space => [.kept space.text]
  | .last before head value after => .kept before.text :: (head.pieces ++ value.pieces ++ [.kept after.text])
  | .next before head value after rest =>
    .kept before.text :: (head.pieces ++ value.pieces ++ .kept (after.text ++ [',']) :: rest.pieces)

end

/-- The record of a function that stands under `key` inside the properties of `path`. -/
def record (path : List String) (key : Option String) (body : List Char) : List Thunk :=
  (key.map fun key => ⟨String.intercalate "." (path ++ [key]), String.ofList body⟩).toList

mutual

/-- The functions in a value that are values of properties, each after those inside it. The value
stands inside the properties of `path`, itself under `key` if it is the value of a property. -/
def Value.thunks (path : List String) (key : Option String) : Value → List Thunk
  | .scalar _ => []
  | .array items => items.thunks (path ++ key.toList)
  | .object members => members.thunks (path ++ key.toList)
  | .function _ before result after =>
    result.thunks (path ++ key.toList) none ++
      record path key (before.text ++ Piece.allInlined result.pieces ++ after.text)
  | .listFunction _ items =>
    items.thunks (path ++ key.toList) ++ record path key ('[' :: (Piece.allInlined items.pieces ++ [']']))

def Items.thunks (path : List String) : Items → List Thunk
  | .done _ => []
  | .last _ value _ => value.thunks path none
  | .next _ value _ rest => value.thunks path none ++ rest.thunks path

def Members.thunks (path : List String) : Members → List Thunk
  | .done _ => []
  | .last _ head value _ => value.thunks path (some (String.ofList head.key.name))
  | .next _ head value _ rest =>
    value.thunks path (some (String.ofList head.key.name)) ++ rest.thunks path

end

/-- The directive `'use strict';` with either quotes. -/
structure Directive where
  quote : Char
  isQuote : quote = '\'' ∨ quote = '"'
  after : Trivia

def Directive.text (directive : Directive) : List Char :=
  directive.quote :: ("use strict".toList ++ directive.quote :: ';' :: directive.after.text)

inductive Export where
  | assignment (gap : List Char) (isGap : gap.all isBlank = true)
  | default

def Export.text : Export → List Char
  | .assignment gap _ => "module.exports".toList ++ gap ++ ['=']
  | .default => "export default".toList

/-- A config script. Its `ending` is a semicolon and what follows it. -/
structure Source where
  before : Trivia
  directive : Option Directive
  exporting : Export
  lead : Trivia
  value : Value
  after : Trivia
  ending : Option Trivia

namespace Source

def header (source : Source) : List Char :=
  source.before.text ++ (source.directive.elim [] Directive.text ++ source.exporting.text)

/-- The exported expression. The semicolon at its end goes. -/
def pieces (source : Source) : List Piece :=
  .kept source.lead.text :: (source.value.pieces ++ .kept source.after.text ::
    source.ending.elim [] fun trivia => [.dropped [';'], .kept trivia.text])

def text (source : Source) : List Char :=
  source.header ++ Piece.allText source.pieces

end Source

end ThemeSense.Script
