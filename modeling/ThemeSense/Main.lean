import ThemeSense.CommandLine.Report
import ThemeSense.Server.Exchange

namespace ThemeSense.Main

/-- Reads one file from the disk that the program runs on. -/
def readFile (path : Path) : IO (Except FileError ByteArray) := do
  try
    return .ok (← IO.FS.readBinFile path.text)
  catch
    | .inappropriateType _ code _ => return .error (if code = 20 then .notDirectory else .isDirectory)
    | _ => return .error .missing

/-- What some files hold at this moment. -/
def snapshot (paths : List Path) : IO Disk := do
  let contents ← paths.mapM fun path => do
    let content ← readFile path
    return (path, content)
  return fun path => ((contents.find? (·.1 = path)).map (·.2)).getD (.error .missing)

/-- The length that the header of a frame tells, up to the empty line. -/
partial def readHeader (stream : IO.FS.Stream) (length : Option Nat) : IO (Option Nat) := do
  let line ← stream.getLine
  if line.isEmpty then return none
  let field := Text.trim line.toList
  if field.isEmpty then return length
  let found := (Text.after? "content-length:".toList (Text.lower field)).bind fun rest =>
    number? (String.ofList (Text.trim rest))
  readHeader stream (found <|> length)

partial def readBody (stream : IO.FS.Stream) (length : Nat) (body : ByteArray) : IO ByteArray := do
  if body.size ≥ length then return body
  let part ← stream.read (USize.ofNat (length - body.size))
  if part.isEmpty then return body
  readBody stream length (body ++ part)

def send (stream : IO.FS.Stream) (message : Json) : IO Unit := do
  let text := message.render
  stream.putStr s!"Content-Length: {text.utf8ByteSize}\r\n\r\n{text}"
  stream.flush

/-- Serves until the session is over or the input ends. -/
partial def serve (input output : IO.FS.Stream) (session : Session) : IO Unit := do
  if session.phase = .over then return
  let some length ← readHeader input none | return
  let body ← readBody input length ByteArray.empty
  match (String.fromUTF8? body).bind Json.parse? with
  | none => serve input output session
  | some message =>
    let disk ← snapshot (session.filesFor message)
    let (answer, messages, session) := session.exchange disk message
    for message in messages do
      send output message.toJson
    if let some answer := answer then send output answer
    serve input output session

partial def readAll (stream : IO.FS.Stream) (content : ByteArray) : IO ByteArray := do
  let part ← stream.read 65536
  if part.isEmpty then return content
  readAll stream (content ++ part)

def runJob (job : Job) : IO UInt32 := do
  let input ← IO.getStdin
  match job with
  | .serve =>
    serve input (← IO.getStdout) .start
    return 0
  | _ =>
    let workingDirectory := Path.ofText (← IO.currentDir).toString
    let disk ← snapshot (job.source.files workingDirectory)
    let content ← if job.source.stdin then readAll input ByteArray.empty else pure ByteArray.empty
    match job.report disk workingDirectory content with
    | .error failure =>
      IO.eprintln failure.message
      return failure.exit.toUInt32
    | .ok report =>
      if let some json := report then IO.println (json.pretty 0)
      return 0

def run (args : List String) : IO UInt32 := do
  match Job.parse args with
  | .ok job => runJob (job.getD .serve)
  | .error .helpWanted =>
    IO.println usageText
    return 0
  | .error .versionWanted =>
    IO.println versionText
    return 0
  | .error e =>
    IO.eprintln s!"error: {e.message}"
    return e.exit.toUInt32

end ThemeSense.Main

def main (args : List String) : IO UInt32 :=
  ThemeSense.Main.run args
