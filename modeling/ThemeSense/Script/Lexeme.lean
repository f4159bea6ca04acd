import ThemeSense.Text.Position

namespace ThemeSense.Script

/-- What can be left open at the end of a script. -/
inductive Construct where
  | string
  | comment
  | object
  | array
  | functionBody
deriving Repr, DecidableEq

def Construct.name : Construct → String
  | .string => "string"
  | .comment => "comment"
  | .object => "object"
  | .array => "array"
  | .functionBody => "function body"

/-- Why a script is not in the supported subset. Offsets are bytes in the exported expression. -/
inductive Error where
  | missingExport
  | unterminated (what : Construct) (offset : Nat)
  | templateLiteral (offset : Nat)
  | blockBody (offset : Nat)
  | unsupportedArrow (offset : Nat)
deriving Repr, DecidableEq

def Error.message : Error → String
  | .missingExport => "config does not assign module.exports or use export default"
  | .unterminated what offset => s!"unterminated {what.name} starting at offset {offset}"
  | .templateLiteral offset => s!"template literals are not supported (offset {offset})"
  | .blockBody offset => s!"function bodies with statements are not supported (offset {offset})"
  | .unsupportedArrow offset => s!"unsupported arrow function body at offset {offset}"

inductive TriviaState where
  | code
  | lineComment
  | blockComment

/-- What is left of the text after space and comments. A block comment without an end reaches to
the end of the text. -/
def dropTrivia : TriviaState → List Char → List Char
  | _, [] => []
  | .code, '/' :: '/' :: rest => dropTrivia .lineComment rest
  | .code, '/' :: '*' :: rest => dropTrivia .blockComment rest
  | .code, c :: rest => if isAsciiBlank c then dropTrivia .code rest else c :: rest
  | .lineComment, c :: rest => dropTrivia (if c = '\n' then .code else .lineComment) rest
  | .blockComment, '*' :: '/' :: rest => dropTrivia .code rest
  | .blockComment, _ :: rest => dropTrivia .blockComment rest

def skipTrivia (cs : List Char) : List Char :=
  dropTrivia .code cs

def dropDirective (directive : List Char) (cs : List Char) : List Char :=
  match Text.after? directive cs with
  | none => cs
  | some rest => skipTrivia ((Text.trimStart rest).dropWhile (· = ';'))

/-- The text of the value that the script exports. -/
def exportedExpression (script : List Char) : Except Error (List Char) :=
  let plain := dropDirective "\"use strict\"".toList (dropDirective "'use strict'".toList (skipTrivia script))
  match Text.after? "module.exports".toList plain with
  | some rest =>
    match Text.after? ['='] (Text.trimStart rest) with
    | some expression => .ok expression
    | none => .error .missingExport
  | none =>
    match Text.after? "export default".toList plain with
    | some expression => .ok expression
    | none => .error .missingExport

/-- The characters of plain keys and of words in general. -/
def isKeyChar (c : Char) : Bool :=
  c.isAlphanum || c == '_' || c == '$'

inductive LexemeKind where
  | quoted
  | comment
  | braceOpen
  | braceClose
  | bracketOpen
  | bracketClose
  /-- An arrow header with the parenthesis that opens its body, which stands at `body`. -/
  | arrowParen (body : Nat)
  /-- An arrow header with the bracket that opens its body, which stands at `body`. -/
  | arrowBracket (body : Nat)
  | parenClose
  | comma
  | semicolon
  | word
  | other
deriving Repr, DecidableEq

/-- A piece of the expression and the byte offset at which it starts. -/
structure Lexeme where
  kind : LexemeKind
  start : Nat
  text : List Char
deriving Repr, DecidableEq

/-- How many characters a string has after its opening quote. It may not run over a line end that
is not escaped. -/
def quotedLength? (quote : Char) : List Char → Option Nat
  | [] => none
  | '\\' :: _ :: rest => (quotedLength? quote rest).map (· + 2)
  | c :: rest =>
    if c = '\n' then none
    else if c = quote then some 1
    else (quotedLength? quote rest).map (· + 1)

/-- How many characters a block comment has after its opening. -/
def commentLength? : List Char → Option Nat
  | '*' :: '/' :: _ => some 2
  | _ :: rest => (commentLength? rest).map (· + 1)
  | [] => none

/-- The text from the body on, if `() =>` goes on after its opening parenthesis. -/
def arrowBody? (rest : List Char) : Option (List Char) :=
  match skipTrivia rest with
  | ')' :: rest =>
    match skipTrivia rest with
    | '=' :: '>' :: rest => some (skipTrivia rest)
    | _ => none
  | _ => none

/-- The lexeme that an opening parenthesis at `start` begins. -/
def recogniseParen (start : Nat) (rest : List Char) : Except Error (LexemeKind × Nat) :=
  match arrowBody? rest with
  | none => .ok (.other, 0)
  | some body =>
    let header := rest.take (rest.length - body.length)
    let bodyStart := start + 1 + Text.bytes header
    match body with
    | '(' :: _ => .ok (.arrowParen bodyStart, header.length + 1)
    | '[' :: _ => .ok (.arrowBracket bodyStart, header.length + 1)
    | '{' :: _ => .error (.blockBody bodyStart)
    | _ => .error (.unsupportedArrow bodyStart)

/-- The kind of the lexeme that begins with `c` at `start`, and how many characters of `rest`
belong to it. -/
def recognise (start : Nat) (c : Char) (rest : List Char) : Except Error (LexemeKind × Nat) :=
  if c = '\'' ∨ c = '"' then
    match quotedLength? c rest with
    | some length => .ok (.quoted, length)
    | none => .error (.unterminated .string start)
  else if c = '\x60' then .error (.templateLiteral start)
  else if c = '/' ∧ rest.head? = some '/' then .ok (.comment, (rest.takeWhile (· ≠ '\n')).length)
  else if c = '/' ∧ rest.head? = some '*' then
    match commentLength? (rest.drop 1) with
    | some length => .ok (.comment, length + 1)
    | none => .error (.unterminated .comment start)
  else if c = '{' then .ok (.braceOpen, 0)
  else if c = '}' then .ok (.braceClose, 0)
  else if c = '[' then .ok (.bracketOpen, 0)
  else if c = ']' then .ok (.bracketClose, 0)
  else if c = '(' then recogniseParen start rest
  else if c = ')' then .ok (.parenClose, 0)
  else if c = ',' then .ok (.comma, 0)
  else if c = ';' then .ok (.semicolon, 0)
  else if isKeyChar c then .ok (.word, (rest.takeWhile isKeyChar).length)
  else .ok (.other, 0)

/-- Cuts the text that starts at byte `start` into lexemes. -/
def lexemes (start : Nat) : List Char → Except Error (List Lexeme)
  | [] => .ok []
  | c :: rest =>
    match recognise start c rest with
    | .error e => .error e
    | .ok (kind, taken) =>
      let text := c :: rest.take taken
      match lexemes (start + Text.bytes text) (rest.drop taken) with
      | .error e => .error e
      | .ok tail => .ok (⟨kind, start, text⟩ :: tail)
termination_by cs => cs.length
decreasing_by simp only [List.length_drop, List.length_cons]; omega

end ThemeSense.Script
