import ThemeSense.Json.Basic

namespace ThemeSense.Json

def hexDigit (n : Nat) : Char :=
  Nat.digitChar (n % 16)

def unitEscape (n : Nat) : List Char :=
  ['\\', 'u', hexDigit (n / 4096), hexDigit (n / 256), hexDigit (n / 16), hexDigit n]

/-- A character inside a string. Everything outside printable ASCII is written as UTF-16 units. -/
def escape (c : Char) : List Char :=
  if c = '"' then ['\\', '"']
  else if c = '\\' then ['\\', '\\']
  else if c.toNat < 0x20 || c.toNat > 0x7E then
    if c.toNat < 0x10000 then unitEscape c.toNat
    else
      let high := 0xD800 + (c.toNat - 0x10000) / 0x400
      let low := 0xDC00 + (c.toNat - 0x10000) % 0x400
      unitEscape high ++ unitEscape low
  else [c]

def quoted (s : String) : String :=
  String.ofList ('"' :: s.toList.flatMap escape ++ ['"'])

mutual

/-- The document on one line without blanks. -/
def render : Json → String
  | .null => "null"
  | .bool value => if value then "true" else "false"
  | .num value => String.ofList value.text
  | .str value => quoted value
  | .arr items => "[" ++ String.intercalate "," (renderItems items) ++ "]"
  | .obj members => "\x7b" ++ String.intercalate "," (renderMembers members) ++ "\x7d"

def renderItems : List Json → List String
  | [] => []
  | item :: rest => render item :: renderItems rest

def renderMembers : List (String × Json) → List String
  | [] => []
  | (key, value) :: rest => (quoted key ++ ":" ++ render value) :: renderMembers rest

end

def newline (indent : Nat) : String :=
  String.ofList ('\n' :: List.replicate indent ' ')

/-- Items between brackets, each on a line of its own. -/
def block (opening closing : String) (indent : Nat) (items : List String) : String :=
  if items.isEmpty then opening ++ closing
  else opening ++ newline (indent + 2) ++ String.intercalate ("," ++ newline (indent + 2)) items ++
    newline indent ++ closing

mutual

/-- The document over several lines, from an indentation on. -/
def pretty (indent : Nat) : Json → String
  | .arr items => block "[" "]" indent (prettyItems (indent + 2) items)
  | .obj members => block "\x7b" "\x7d" indent (prettyMembers (indent + 2) members)
  | json => render json

def prettyItems (indent : Nat) : List Json → List String
  | [] => []
  | item :: rest => pretty indent item :: prettyItems indent rest

def prettyMembers (indent : Nat) : List (String × Json) → List String
  | [] => []
  | (key, value) :: rest => (quoted key ++ ": " ++ pretty indent value) :: prettyMembers indent rest

end

end ThemeSense.Json
