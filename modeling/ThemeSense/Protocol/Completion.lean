import ThemeSense.Completion.Item
import ThemeSense.Protocol.Place

namespace ThemeSense

namespace Decode

def string? (json : Json) : Option Json :=
  (text? json).map .str

def boolean? (json : Json) : Option Json :=
  (flag? json).map .bool

def code? (json : Json) : Option Json :=
  (int32? json).map fun n => .num (.int n)

def range? (json : Json) : Option Json :=
  (Range.ofJson? json).map Range.toJson

/-- A replacement of a stretch of text. -/
def textEdit? : Json → Option Json :=
  passed? [("range", range?), ("newText", string?)] []

/-- A replacement with one stretch to insert at and another to replace. -/
def insertReplaceEdit? : Json → Option Json :=
  passed? [("newText", string?), ("insert", range?), ("replace", range?)] []

def edit? (json : Json) : Option Json :=
  textEdit? json <|> insertReplaceEdit? json

/-- The members of a completion item that are passed on as they are. -/
def itemExtras : List (String × (Json → Option Json)) := [
  ("labelDetails", passed? [] [("detail", string?), ("description", string?)]),
  ("deprecated", boolean?),
  ("preselect", boolean?),
  ("filterText", string?),
  ("insertTextFormat", code?),
  ("insertTextMode", code?),
  ("textEdit", edit?),
  ("additionalTextEdits", fun json => (list? textEdit? json).map .arr),
  ("commitCharacters", fun json => (list? string? json).map .arr),
  ("tags", fun json => (list? code? json).map .arr)]

end Decode

namespace MarkedText

def toJson : MarkedText → Json
  | .bare text => .str text
  | .plaintext text => .obj [("kind", .str "plaintext"), ("value", .str text)]
  | .markdown text => .obj [("kind", .str "markdown"), ("value", .str text)]

def ofJson? : Json → Option MarkedText
  | .str text => some (.bare text)
  | json => do
    let json ← Decode.record? ["kind", "value"] json
    let kind ← Decode.member json "kind" Decode.text?
    let text ← Decode.member json "value" Decode.text?
    match kind with
    | "plaintext" => return .plaintext text
    | "markdown" => return .markdown text
    | _ => none

end MarkedText

namespace Command

def toJson (command : Command) : Json :=
  .compact [("title", some (.str command.title)), ("command", some (.str command.command)),
    ("arguments", command.arguments.map .arr)]

def ofJson? (json : Json) : Option Command := do
  let json ← Decode.record? ["title", "command", "arguments"] json
  let title ← Decode.member json "title" Decode.text?
  let command ← Decode.member json "command" Decode.text?
  let arguments ← Decode.optional json "arguments" (Decode.list? some)
  return ⟨title, command, arguments⟩

end Command

namespace CompletionItem

def toJson (item : CompletionItem) : Json :=
  .compact ([
    ("label", some (.str item.label)),
    ("kind", item.kind.map fun kind => .num (.int kind)),
    ("detail", item.detail.map .str),
    ("documentation", item.documentation.map MarkedText.toJson),
    ("sortText", item.sortText.map .str),
    ("insertText", item.insertText.map .str),
    ("command", item.command.map Command.toJson),
    ("data", item.data)] ++ item.others.map fun (key, value) => (key, some value))

def ofJson? : Json → Option CompletionItem
  | .obj members => do
    let json := Json.obj members
    let label ← Decode.member json "label" Decode.text?
    let kind ← Decode.optional json "kind" Decode.int32?
    let detail ← Decode.optional json "detail" Decode.text?
    let documentation ← Decode.optional json "documentation" MarkedText.ofJson?
    let sortText ← Decode.optional json "sortText" Decode.text?
    let insertText ← Decode.optional json "insertText" Decode.text?
    let command ← Decode.optional json "command" Command.ofJson?
    let data ← Decode.optional json "data" Decode.any?
    let others ← Decode.kept json Decode.itemExtras
    return ⟨label, kind, detail, documentation, sortText, insertText, command, data, others⟩
  | _ => none

end CompletionItem

end ThemeSense
