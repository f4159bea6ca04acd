import ThemeSense.Protocol.Completion
import ThemeSense.Uri

namespace ThemeSense

/-- What a client asks a server. -/
inductive Request where
  | setUp (roots : List Path)
  | shutdown
  | completion (uri : Uri) (position : Position)
  | resolveItem (item : CompletionItem)
  | hover (uri : Uri) (position : Position)
  | documentColor (uri : Uri)
  | colorPresentation (red green blue alpha : Float32) (range : Range)
  | unsupported

/-- What a client tells a server. -/
inductive Notice where
  | initialized
  | exit
  | didOpen (uri : Uri) (text : List Char)
  | didChange (uri : Uri) (texts : List (List Char))
  | didClose (uri : Uri)
  | settingsChanged
  | filesChanged (files : List Uri)
  | allColors
  | colorValue (name : String)
  | unsupported

namespace Decode

def uri? (json : Json) : Option Uri :=
  (text? json).bind Uri.parse?

def object? : Json → Option Json
  | .obj members => some (.obj members)
  | _ => none

def documentUri? (json : Json) : Option Uri := do
  let json ← record? ["uri"] json
  member json "uri" uri?

def versionedUri? (json : Json) : Option Uri := do
  let json ← record? ["uri", "version"] json
  let _ ← member json "version" int32?
  member json "uri" uri?

def openedDocument? (json : Json) : Option (Uri × List Char) := do
  let json ← record? ["uri", "languageId", "version", "text"] json
  let uri ← member json "uri" uri?
  let _ ← member json "languageId" text?
  let _ ← member json "version" int32?
  let text ← member json "text" text?
  return (uri, text.toList)

def change? (json : Json) : Option (List Char) := do
  let json ← record? ["range", "rangeLength", "text"] json
  let _ ← optional json "range" Range.ofJson?
  let _ ← optional json "rangeLength" nat32?
  let text ← member json "text" text?
  return text.toList

def fileEvent? (json : Json) : Option Uri := do
  let json ← record? ["uri", "type"] json
  let _ ← member json "type" int32?
  member json "uri" uri?

def folder? (json : Json) : Option Uri := do
  let json ← record? ["uri", "name"] json
  let _ ← member json "name" text?
  member json "uri" uri?

def clientInfo? (json : Json) : Option String := do
  let json ← record? ["name", "version"] json
  let _ ← optional json "version" text?
  member json "name" text?

def traceLevel? (json : Json) : Option String :=
  (text? json).filter ["off", "messages", "verbose"].contains

/-- What a client can do. Nothing of it matters here, but its parts must be objects. -/
def capabilities? (json : Json) : Option Json := do
  let json ← object? json
  let _ ← optional json "workspace" object?
  let _ ← optional json "textDocument" object?
  let _ ← optional json "window" object?
  let _ ← optional json "general" object?
  return json

/-- The roots of the workspace: its folders that are directories here, or else its single root. -/
def roots? (json : Json) : Option (List Path) := do
  let json ← object? json
  let _ ← optional json "processId" nat32?
  let _ ← optional json "rootPath" text?
  let root ← optional json "rootUri" uri?
  let _ ← member json "capabilities" capabilities?
  let _ ← optional json "trace" traceLevel?
  let folders ← optional json "workspaceFolders" (list? folder?)
  let _ ← optional json "clientInfo" clientInfo?
  let _ ← optional json "locale" text?
  let paths := (folders.getD []).filterMap Uri.path?
  return if paths.isEmpty then (root.bind Uri.path?).toList else paths

/-- A progress token: a number or a text. -/
def token? (json : Json) : Option Json :=
  code? json <|> string? json

/-- The object with the members that every request may have. -/
def request? (json : Json) : Option Json := do
  let json ← object? json
  let _ ← optional json "workDoneToken" token?
  let _ ← optional json "partialResultToken" token?
  return json

def documentRequest? (json : Json) : Option Uri := do
  let json ← request? json
  member json "textDocument" documentUri?

def positionRequest? (json : Json) : Option (Uri × Position) := do
  let json ← request? json
  let uri ← member json "textDocument" documentUri?
  let position ← member json "position" Position.ofJson?
  return (uri, position)

def completionContext? (json : Json) : Option Json := do
  let json ← record? ["triggerKind", "triggerCharacter"] json
  let _ ← member json "triggerKind" int32?
  let _ ← optional json "triggerCharacter" text?
  return json

def completionRequest? (json : Json) : Option Request := do
  let (uri, position) ← positionRequest? json
  let _ ← optional json "context" completionContext?
  return .completion uri position

def channels? (json : Json) : Option (Float32 × Float32 × Float32 × Float32) := do
  let json ← record? ["red", "green", "blue", "alpha"] json
  let red ← member json "red" single?
  let green ← member json "green" single?
  let blue ← member json "blue" single?
  let alpha ← member json "alpha" single?
  return (red, green, blue, alpha)

def presentationRequest? (json : Json) : Option Request := do
  let _ ← documentRequest? json
  let (red, green, blue, alpha) ← member json "color" channels?
  let range ← member json "range" Range.ofJson?
  return .colorPresentation red green blue alpha range

end Decode

/-- How the params of a method are read: either there must be none, or there must be some. -/
inductive Params (α : Type) where
  | without (value : α)
  | needed (decode : Json → Option α)

namespace Request

/-- Requests about a position that this server does not answer. -/
def unsupportedAtPosition : List String := [
  "textDocument/declaration", "textDocument/definition", "textDocument/typeDefinition",
  "textDocument/implementation", "textDocument/documentHighlight", "textDocument/signatureHelp",
  "textDocument/prepareRename", "textDocument/linkedEditingRange", "textDocument/moniker",
  "textDocument/prepareCallHierarchy", "textDocument/prepareTypeHierarchy", "textDocument/references",
  "textDocument/rename", "textDocument/onTypeFormatting"]

/-- Requests about a document that this server does not answer. -/
def unsupportedInDocument : List String := [
  "textDocument/documentLink", "textDocument/codeLens", "textDocument/foldingRange",
  "textDocument/documentSymbol", "textDocument/semanticTokens/full", "textDocument/semanticTokens/full/delta",
  "textDocument/semanticTokens/range", "textDocument/diagnostic", "textDocument/inlayHint",
  "textDocument/inlineValue", "textDocument/codeAction", "textDocument/formatting",
  "textDocument/rangeFormatting", "textDocument/selectionRange", "textDocument/willSaveWaitUntil"]

/-- Other requests that this server does not answer. -/
def unsupportedElsewhere : List String := [
  "documentLink/resolve", "codeLens/resolve", "inlayHint/resolve", "codeAction/resolve",
  "workspaceSymbol/resolve", "callHierarchy/incomingCalls", "callHierarchy/outgoingCalls",
  "typeHierarchy/supertypes", "typeHierarchy/subtypes", "workspace/symbol", "workspace/executeCommand",
  "workspace/willCreateFiles", "workspace/willRenameFiles", "workspace/willDeleteFiles",
  "workspace/diagnostic"]

/-- The request with this name. -/
def ofMethod? (method : String) : Option (Params Request) :=
  match method with
  | "initialize" => some (.needed fun json => (Decode.roots? json).map .setUp)
  | "shutdown" => some (.without .shutdown)
  | "textDocument/completion" => some (.needed Decode.completionRequest?)
  | "completionItem/resolve" => some (.needed fun json => (CompletionItem.ofJson? json).map .resolveItem)
  | "textDocument/hover" => some (.needed fun json =>
      (Decode.positionRequest? json).map fun (uri, position) => .hover uri position)
  | "textDocument/documentColor" => some (.needed fun json => (Decode.documentRequest? json).map .documentColor)
  | "textDocument/colorPresentation" => some (.needed Decode.presentationRequest?)
  | _ =>
    if unsupportedAtPosition.contains method then
      some (.needed fun json => (Decode.positionRequest? json).map fun _ => .unsupported)
    else if unsupportedInDocument.contains method then
      some (.needed fun json => (Decode.documentRequest? json).map fun _ => .unsupported)
    else if unsupportedElsewhere.contains method then
      some (.needed fun json => (Decode.object? json).map fun _ => .unsupported)
    else none

end Request

namespace Notice

/-- Notices that this server does not heed. -/
def unheeded : List String := [
  "textDocument/willSave", "textDocument/didSave", "workspace/didChangeWorkspaceFolders",
  "workspace/didCreateFiles", "workspace/didRenameFiles", "workspace/didDeleteFiles", "$/cancelRequest"]

/-- The notice with this name. -/
def ofMethod? (method : String) : Option (Params Notice) :=
  match method with
  | "initialized" => some (.needed fun json => (Decode.object? json).map fun _ => .initialized)
  | "exit" => some (.without .exit)
  | "textDocument/didOpen" => some (.needed fun json =>
      (Decode.member json "textDocument" Decode.openedDocument?).map fun (uri, text) => .didOpen uri text)
  | "textDocument/didChange" => some (.needed fun json => do
      let uri ← Decode.member json "textDocument" Decode.versionedUri?
      let texts ← Decode.member json "contentChanges" (Decode.list? Decode.change?)
      return .didChange uri texts)
  | "textDocument/didClose" => some (.needed fun json =>
      (Decode.member json "textDocument" Decode.documentUri?).map .didClose)
  | "workspace/didChangeConfiguration" => some (.needed fun json =>
      (json.member? "settings").map fun _ => .settingsChanged)
  | "workspace/didChangeWatchedFiles" => some (.needed fun json =>
      (Decode.member json "changes" (Decode.list? Decode.fileEvent?)).map .filesChanged)
  | "europacss/getAllColors" => some (.without .allColors)
  | "europacss/getColorValue" => some (.needed fun json =>
      (Decode.member json "colorName" Decode.text?).map .colorValue)
  | _ => if unheeded.contains method then some (.needed fun _ => some .unsupported) else none

end Notice

end ThemeSense
