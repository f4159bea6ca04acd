import ThemeSense.Protocol.Completion
import ThemeSense.Protocol.Report
import ThemeSense.Server.Session

namespace ThemeSense

namespace Reply

def single (x : Float32) : Json :=
  .num (.float x.toFloat)

def markdown (text : String) : Json :=
  (MarkedText.markdown text).toJson

/-- What the server can do. -/
def capabilities : Json := .obj [
  ("textDocumentSync", .nat 1),
  ("hoverProvider", .bool true),
  ("completionProvider", .obj [
    ("resolveProvider", .bool true),
    ("triggerCharacters", Json.strings ["@", " ", ".", "/", "-"])]),
  ("colorProvider", .bool true)]

def serverInfo : Json := .obj [
  ("capabilities", capabilities),
  ("serverInfo", .obj [("name", .str "europa-lsp"), ("version", .str "0.2.0")])]

def completion : Option (List CompletionItem) → Json
  | none => .null
  | some items => .arr (items.map CompletionItem.toJson)

def hover : Option HoverAnswer → Json
  | none => .null
  | some answer => .obj [("contents", markdown answer.text), ("range", answer.range.toJson)]

def channels (color : Rgba) : Json := .obj [
  ("red", single (Rgba.unit color.red)),
  ("green", single (Rgba.unit color.green)),
  ("blue", single (Rgba.unit color.blue)),
  ("alpha", single (Rgba.unit color.alpha))]

def documentColors (colors : List DocumentColor) : Json :=
  .arr (colors.map fun found => .obj [("range", found.range.toJson), ("color", channels found.color)])

def presentation (range : Range) (text : String) : Json := .obj [
  ("label", .str text),
  ("textEdit", .obj [("range", range.toJson), ("newText", .str text)])]

/-- The notations for a color: hexadecimal, then functional. -/
def colorPresentation (red green blue alpha : Float32) (range : Range) : Json := .arr [
  presentation range (Rgba.ofUnits red green blue alpha).hexText,
  presentation range (Rgba.functionalText red green blue alpha)]

end Reply

def Severity.code : Severity → Nat
  | .warning => 2
  | .info => 3

namespace ClientMessage

def method : ClientMessage → String
  | .log .. => "window/logMessage"
  | .watchConfigs => "client/registerCapability"
  | .color _ => "europacss/colorInfo"

/-- Asks to be told when a config file changes. -/
def watcher : Json := .obj [
  ("id", .str "europa-config-watcher"),
  ("method", .str "workspace/didChangeWatchedFiles"),
  ("registerOptions", .obj [
    ("watchers", .arr [.obj [("globPattern", .str "**/europa.config.\x7bjs,cjs\x7d")]])])]

def params : ClientMessage → Json
  | .log severity text => .obj [("type", .nat severity.code), ("message", .str text)]
  | .watchConfigs => .obj [("registrations", .arr [watcher])]
  | .color known => known.toJson

/-- Whether the client has to answer. -/
def isRequest : ClientMessage → Bool
  | .watchConfigs => true
  | _ => false

end ClientMessage

end ThemeSense
