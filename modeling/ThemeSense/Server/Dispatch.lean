import ThemeSense.Json.Printer
import ThemeSense.Server.Message
import ThemeSense.Server.Reply

namespace ThemeSense

/-- Why a request is refused. -/
inductive Refusal where
  | notInitialized
  | outOfPlace
  | unknownMethod (name : String)
  | unsupportedMethod
  | missingParams
  | unexpectedParams (params : Json)
  | malformedParams

namespace Refusal

def code : Refusal → Int
  | .notInitialized => -32002
  | .outOfPlace => -32600
  | .unknownMethod _ => -32601
  | .unsupportedMethod => -32601
  | .missingParams => -32602
  | .unexpectedParams _ => -32602
  | .malformedParams => -32602

def message : Refusal → String
  | .notInitialized => "Server not initialized"
  | .outOfPlace => "Invalid request"
  | .unknownMethod _ => "Method not found"
  | .unsupportedMethod => "Method not found"
  | .missingParams => "Missing params field"
  | .unexpectedParams params => "Unexpected params: " ++ params.render
  | .malformedParams => "Invalid params"

end Refusal

/-- Reads the params of a method. -/
def Params.read {α : Type} (params : Params α) (given : Option Json) : Except Refusal α :=
  match params, given with
  | .without value, none => .ok value
  | .without _, some json => .error (.unexpectedParams json)
  | .needed _, none => .error .missingParams
  | .needed decode, some json =>
    match decode json with
    | some value => .ok value
    | none => .error .malformedParams

/-- What comes of a message: an answer if one is due, what else the client is told, and the session
afterwards. -/
structure Outcome where
  answer : Option (Except Refusal Json)
  messages : List ClientMessage
  session : Session

namespace Session

/-- The refusal of every request outside the running phase. -/
def phaseRefusal : Phase → Refusal
  | .fresh => .notInitialized
  | _ => .outOfPlace

def refused (session : Session) (refusal : Refusal) : Outcome :=
  ⟨some (.error refusal), [], session⟩

def answered (result : Json) (session : Session) : Outcome :=
  ⟨some (.ok result), [], session⟩

def silent (session : Session) : Outcome :=
  ⟨none, [], session⟩

/-- Answers a request in its proper phase. -/
def answer (session : Session) : Request → Outcome
  | .setUp roots => answered Reply.serverInfo { session with roots := roots, phase := .running }
  | .shutdown => answered .null session
  | .completion uri position =>
    let (items, session) := session.completion uri position
    answered (Reply.completion items) session
  | .resolveItem item => answered item.resolve.toJson session
  | .hover uri position =>
    let (found, session) := session.hover uri position
    answered (Reply.hover found) session
  | .documentColor uri =>
    let (colors, session) := session.documentColors uri
    answered (Reply.documentColors colors) session
  | .colorPresentation red green blue alpha range =>
    answered (Reply.colorPresentation red green blue alpha range) session
  | .unsupported => session.refused .unsupportedMethod

/-- Heeds a notice in a running session. -/
def heed (session : Session) (disk : Disk) : Notice → List ClientMessage × Session
  | .initialized => session.initialized disk
  | .exit => ([], { session with phase := .over })
  | .didOpen uri text => session.didOpen disk uri text
  | .didChange uri texts => ([], session.didChange uri texts)
  | .didClose uri => ([], session.closeDocument uri)
  | .settingsChanged => session.refresh disk
  | .filesChanged files => session.filesChanged disk files
  | .allColors => session.answerColors .all
  | .colorValue name => session.answerColors (.one name)
  | .unsupported => ([], session)

/-- The session when a message with this name has come: asking for the end ends it, whatever the
params are. -/
def entered (session : Session) (method : String) : Session :=
  if method = "exit" then { session with phase := .over }
  else if method = "shutdown" ∧ session.phase = .running then { session with phase := .shutDown }
  else session

/-- Whether a message with this name may come in a phase. -/
def isInPlace (phase : Phase) (method : String) : Bool :=
  phase == (if method = "initialize" then .fresh else .running)

/-- Takes a request, which always gets an answer unless its method is a notice. -/
def request (session : Session) (method : String) (params : Option Json) : Outcome :=
  let next := session.entered method
  if method = "exit" then next.silent
  else match Request.ofMethod? method, Notice.ofMethod? method with
    | none, none => session.refused (.unknownMethod method)
    | request, _ =>
      if isInPlace session.phase method then
        match request with
        | none => next.silent
        | some decoder =>
          match decoder.read params with
          | .ok request => next.answer request
          | .error refusal => next.refused refusal
      else session.refused (if method = "initialize" then .outOfPlace else phaseRefusal session.phase)

/-- Takes a notice, which never gets an answer. One that is out of place or cannot be read is dropped. -/
def notify (session : Session) (disk : Disk) (method : String) (params : Option Json) : Outcome :=
  let next := session.entered method
  match Notice.ofMethod? method with
  | none => next.silent
  | some decoder =>
    match session.phase, decoder.read params with
    | .running, .ok notice =>
      let (messages, session) := next.heed disk notice
      ⟨none, messages, session⟩
    | _, _ => next.silent

end Session

end ThemeSense
