import ThemeSense.Script.Lexeme

namespace ThemeSense.Script

/-- A bracket that has been opened and not closed. -/
structure Frame where
  kind : Construct
  /-- The property whose value the bracket opens. -/
  key : Option String
  /-- Where the body starts in the output, for the function of a property. -/
  bodyStart : Option Nat
  /-- The byte offset of the opening bracket. -/
  start : Nat
deriving Repr, DecidableEq

/-- A property whose value is a function: its dotted path and the text of what it returns. -/
structure Thunk where
  key : String
  body : String
deriving Repr, DecidableEq

/-- A script as plain data: every function replaced by what it returns. -/
structure Inlined where
  source : String
  thunks : List Thunk
deriving Repr, DecidableEq

def Inlined.thunk? (script : Inlined) (key : String) : Option Thunk :=
  script.thunks.find? (·.key = key)

/-- The state of inlining after some lexemes. Frames stand innermost first, thunks latest first. -/
structure Inliner where
  out : Array Char
  frames : List Frame
  expectKey : Bool
  pendingKey : Option String
  thunks : List Thunk

namespace Inliner

def start : Inliner :=
  ⟨#[], [], false, none, []⟩

def emit (state : Inliner) (text : List Char) : Inliner :=
  { state with out := state.out ++ text }

def topKind (state : Inliner) : Option Construct :=
  state.frames.head?.map (·.kind)

/-- Opens a bracket as the value of the pending key. -/
def push (state : Inliner) (kind : Construct) (bodyStart : Option Nat) (start : Nat) : Inliner :=
  { state with
    frames := ⟨kind, state.pendingKey, bodyStart, start⟩ :: state.frames
    pendingKey := none }

/-- The dotted path of a key inside the open frames. -/
def path (frames : List Frame) (key : String) : String :=
  String.intercalate "." ((frames.filterMap (·.key)).reverse ++ [key])

/-- Closes the innermost bracket and records the function that ends there. -/
def pop (state : Inliner) : Inliner :=
  match state.frames with
  | [] => state
  | frame :: outer =>
    let thunks := match frame.key, frame.bodyStart with
      | some key, some start =>
        ⟨path outer key, String.ofList (state.out.toList.drop start)⟩ :: state.thunks
      | _, _ => state.thunks
    { state with frames := outer, thunks := thunks, expectKey := false }

/-- A closing bracket that does not fit is left for the reader of the output. -/
def close (state : Inliner) (kind : Construct) (text : List Char) : Inliner :=
  let state := { state.emit text with expectKey := false }
  if state.topKind = some kind then state.pop else state

def takeKey (state : Inliner) (key : List Char) : Inliner :=
  { state with pendingKey := some (String.ofList key), expectKey := false }

def startsWithDigit (text : List Char) : Bool :=
  text.head?.any Char.isDigit

/-- The start of a function's body, which matters only under a property. -/
def bodyStart (state : Inliner) : Option Nat :=
  state.pendingKey.map fun _ => state.out.size

def step (state : Inliner) (lexeme : Lexeme) : Inliner :=
  let text := lexeme.text
  match lexeme.kind with
  | .quoted =>
    let written := state.emit text
    if state.expectKey then written.takeKey (text.drop 1).dropLast else written
  | .comment => state.emit text
  | .braceOpen => { (state.push .object none lexeme.start).emit text with expectKey := true }
  | .bracketOpen => (state.push .array none lexeme.start).emit text
  | .braceClose => state.close .object text
  | .bracketClose => state.close .array text
  | .arrowParen body => state.push .functionBody state.bodyStart body
  | .arrowBracket body => (state.push .array state.bodyStart body).emit ['[']
  | .parenClose => if state.topKind = some .functionBody then state.pop else state.emit text
  | .comma =>
    { state.emit text with pendingKey := none, expectKey := state.topKind = some .object }
  | .semicolon => if state.frames.isEmpty then state else state.emit text
  | .word =>
    if state.expectKey then
      let written := if startsWithDigit text then '"' :: text ++ ['"'] else text
      (state.emit written).takeKey text
    else state.emit text
  | .other => state.emit text

def finish (state : Inliner) : Except Error Inlined :=
  match state.frames with
  | [] => .ok ⟨String.ofList state.out.toList, state.thunks.reverse⟩
  | frame :: _ => .error (.unterminated frame.kind frame.start)

end Inliner

/-- Replaces every function of the exported value by what it returns and quotes numeric keys. -/
def inline (script : String) : Except Error Inlined :=
  match exportedExpression script.toList with
  | .error e => .error e
  | .ok expression =>
    match lexemes 0 expression with
    | .error e => .error e
    | .ok pieces => (pieces.foldl Inliner.step Inliner.start).finish

end ThemeSense.Script
