import ThemeSense.Server.Dispatch

namespace ThemeSense

/-- A message as it travels: with an id it is a request, without one a notice. -/
structure Call where
  method : String
  params : Option Json
  id : Option Json

inductive Incoming where
  | call (call : Call)
  | response
  | invalid

namespace Incoming

/-- The id of a request: a whole number or a text. `null` is no id. -/
def id? (json : Json) : Option (Option Json) :=
  Decode.optional json "id" fun id =>
    ((Decode.whole? (-9223372036854775808) 9223372036854775807 id).map fun n => .num (.int n)) <|> Decode.string? id

def isResponse (json : Json) : Bool :=
  (json.member? "id").isSome && ((json.member? "result").isSome || (json.member? "error").isSome)

def ofJson (json : Json) : Incoming :=
  match Decode.object? json, (json.member? "jsonrpc").bind Decode.text?, id? json with
  | some json, some "2.0", some id =>
    if isResponse json then .response
    else match json.member? "method" with
      | none => .call ⟨"", json.member? "params", id⟩
      | some (.str method) => .call ⟨method, json.member? "params", id⟩
      | some _ => .invalid
  | _, _, _ => .invalid

end Incoming

namespace Refusal

def toJson (refusal : Refusal) : Json :=
  .compact [
    ("code", some (.num (.int refusal.code))),
    ("message", some (.str refusal.message)),
    ("data", match refusal with
      | .unknownMethod name => some (.str name)
      | _ => none)]

end Refusal

/-- An answer as it travels. -/
def answerJson (id : Json) : Except Refusal Json → Json
  | .ok result => .obj [("jsonrpc", .str "2.0"), ("result", result), ("id", id)]
  | .error refusal => .obj [("jsonrpc", .str "2.0"), ("error", refusal.toJson), ("id", id)]

/-- A message to the client as it travels. -/
def ClientMessage.toJson (message : ClientMessage) : Json :=
  .compact [
    ("jsonrpc", some (.str "2.0")),
    ("method", some (.str message.method)),
    ("params", some message.params),
    ("id", if message.isRequest then some (.nat 0) else none)]

namespace Session

/-- Takes one message. A session that is over takes none. -/
def exchange (session : Session) (disk : Disk) (message : Json) : Option Json × List ClientMessage × Session :=
  if session.phase = .over then (none, [], session)
  else match Incoming.ofJson message.merged with
    | .response => (none, [], session)
    | .invalid => (some (answerJson .null (.error .outOfPlace)), [], session)
    | .call ⟨method, params, none⟩ =>
      let outcome := session.notify disk method params
      (none, outcome.messages, outcome.session)
    | .call ⟨method, params, some id⟩ =>
      let outcome := session.request method params
      (outcome.answer.map (answerJson id), outcome.messages, outcome.session)

/-- The document that a message is about, if that decides where a config is looked for. -/
def openedPath? (message : Json) : Option Path :=
  match Incoming.ofJson message.merged with
  | .call ⟨"textDocument/didOpen", some params, _⟩ =>
    (Decode.member params "textDocument" Decode.openedDocument?).bind fun (uri, _) => uri.path?
  | _ => none

/-- All files that taking a message may read. -/
def filesFor (session : Session) (message : Json) : List Path :=
  let near (document : Option Path) : List Path := (document.map (configsFor session.roots)).getD []
  near (openedPath? message) ++ near session.config ++ session.roots.flatMap configsIn

end Session

end ThemeSense
