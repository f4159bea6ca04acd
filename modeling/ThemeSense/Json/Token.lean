import ThemeSense.Json.Basic

namespace ThemeSense.Json

/-- A lexical unit of a JSON document. A `word` is a run of name characters, `name` one that was
written with escapes. `valueless` is a well-formed string or number that stands for no value. -/
inductive Token where
  | braceOpen
  | braceClose
  | bracketOpen
  | bracketClose
  | comma
  | colon
  | word (text : String)
  | name (text : String)
  | text (value : String)
  | scalar (value : Json)
  | valueless

/-- What a notation built from these tokens allows. -/
structure Dialect where
  /-- The values that words stand for. -/
  word? : String → Option Json
  /-- Names without quotes may be keys. -/
  bareKeys : Bool
  /-- A comma may stand before a closing bracket. -/
  trailingComma : Bool
  /-- Arrays and objects may be nested only less deep than this. -/
  depthLimit : Option Nat
  /-- The members of the outermost object whose values need only be well-formed. -/
  overlooks : String → Bool

/-- An array or object whose closing bracket has not come yet, its contents in reverse. -/
inductive Open where
  | array (items : List Json)
  | object (members : List (String × Json))
  | member (members : List (String × Json)) (key : String)

/-- What may come next. -/
inductive Phase where
  | value
  | valueOrClose
  | key
  | keyOrClose
  | colon
  | separator
  | done (value : Json)

/-- A document under construction, the innermost open bracket first. -/
structure Builder where
  stack : List Open
  phase : Phase

namespace Builder

def start : Builder :=
  ⟨[], .value⟩

/-- Puts a finished value where it belongs. -/
def put (stack : List Open) (value : Json) : Option Builder :=
  match stack with
  | [] => some ⟨[], .done value⟩
  | .array items :: rest => some ⟨.array (value :: items) :: rest, .separator⟩
  | .member members key :: rest => some ⟨.object ((key, value) :: members) :: rest, .separator⟩
  | .object _ :: _ => none

/-- Whether the place is inside a member that is overlooked. -/
def isOverlooked (dialect : Dialect) (stack : List Open) : Bool :=
  match stack.getLast? with
  | some (.member _ key) => dialect.overlooks key
  | _ => false

def enter (dialect : Dialect) (stack : List Open) (frame : Open) (phase : Phase) : Option Builder :=
  match dialect.depthLimit with
  | some limit =>
    if stack.length + 1 < limit || isOverlooked dialect stack then some ⟨frame :: stack, phase⟩ else none
  | none => some ⟨frame :: stack, phase⟩

def value (dialect : Dialect) (stack : List Open) : Token → Option Builder
  | .braceOpen => enter dialect stack (.object []) .keyOrClose
  | .bracketOpen => enter dialect stack (.array []) .valueOrClose
  | .text value => put stack (.str value)
  | .scalar value => put stack value
  | .word text => (dialect.word? text).bind (put stack)
  | .valueless => if isOverlooked dialect stack then put stack .null else none
  | _ => none

def key (dialect : Dialect) (stack : List Open) (name : String) (bare : Bool) : Option Builder :=
  match stack with
  | .object members :: rest =>
    if bare && !dialect.bareKeys then none else some ⟨.member members name :: rest, .colon⟩
  | _ => none

def close (stack : List Open) : Token → Option Builder
  | .bracketClose => match stack with
    | .array items :: rest => put rest (.arr items.reverse)
    | _ => none
  | .braceClose => match stack with
    | .object members :: rest => put rest (.obj members.reverse)
    | _ => none
  | _ => none

def keyToken (dialect : Dialect) (stack : List Open) : Token → Option Builder
  | .text name => key dialect stack name false
  | .word name => key dialect stack name true
  | .name name => key dialect stack name true
  | .valueless => if isOverlooked dialect stack then key dialect stack "" false else none
  | _ => none

/-- What may follow a comma inside the innermost bracket. -/
def afterComma (dialect : Dialect) (stack : List Open) : Option Builder :=
  match stack with
  | .array _ :: _ => some ⟨stack, if dialect.trailingComma then .valueOrClose else .value⟩
  | .object _ :: _ => some ⟨stack, if dialect.trailingComma then .keyOrClose else .key⟩
  | _ => none

def step (dialect : Dialect) (b : Builder) (token : Token) : Option Builder :=
  match b.phase, token with
  | .value, _ => value dialect b.stack token
  | .valueOrClose, .bracketClose => close b.stack .bracketClose
  | .valueOrClose, _ => value dialect b.stack token
  | .key, _ => keyToken dialect b.stack token
  | .keyOrClose, .braceClose => close b.stack .braceClose
  | .keyOrClose, _ => keyToken dialect b.stack token
  | .colon, .colon => some ⟨b.stack, .value⟩
  | .colon, _ => none
  | .separator, .comma => afterComma dialect b.stack
  | .separator, _ => close b.stack token
  | .done _, _ => none

end Builder

/-- The document that a token sequence spells. -/
def ofTokens? (dialect : Dialect) (tokens : List Token) : Option Json := do
  let finished ← tokens.foldlM (Builder.step dialect) Builder.start
  match finished.phase with
  | .done value => some value
  | _ => none

end ThemeSense.Json
