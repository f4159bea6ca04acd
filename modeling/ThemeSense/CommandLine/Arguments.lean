import ThemeSense.Text.Blank

namespace ThemeSense

/-- Why arguments are not taken. Asking for help or the version counts as one of the reasons. -/
inductive ArgumentError where
  | helpWanted
  | versionWanted
  | unknownArgument
  | unknownCommand
  | unwantedValue
  | repeated
  | emptyValue
  | wrongValue
  | missing
deriving Repr, DecidableEq

def ArgumentError.message : ArgumentError → String
  | .helpWanted => "help requested"
  | .versionWanted => "version requested"
  | .unknownArgument => "unexpected argument"
  | .unknownCommand => "unrecognized subcommand"
  | .unwantedValue => "unexpected value for an option that takes none"
  | .repeated => "an option cannot be used multiple times"
  | .emptyValue => "a value is required for an option but none was supplied"
  | .wrongValue => "invalid value for an option"
  | .missing => "required options were not provided"

/-- The stylesheet to look at and the config to use. -/
structure Source where
  file : Option String
  stdin : Bool
  config : Option String
deriving Repr, DecidableEq

/-- What the program is asked to do. Lines count from one here. -/
inductive Job where
  | serve
  | complete (source : Source) (line character : Nat)
  | hover (source : Source) (line character : Nat)
  | colors (config : Option String)
  | swatches (source : Source)
deriving Repr, DecidableEq

/-- What an argument may hold. -/
inductive ArgumentKind where
  | flag
  | path
  | number
deriving Repr, DecidableEq

inductive ArgumentValue where
  | present
  | path (text : String)
  | number (value : Nat)
deriving Repr, DecidableEq

/-- The arguments of a command: whether it takes a file, and its options. -/
structure ArgumentSpec where
  takesFile : Bool
  options : List (String × ArgumentKind)

/-- Arguments read so far, and one more that waits for its value or for being checked. -/
structure ArgumentScan where
  given : List (String × ArgumentValue)
  pending : Option (String × Option String)
  fileTaken : Bool

/-- A whole number of 32 bits in decimal digits, possibly with a sign. -/
def number? (text : String) : Option Nat :=
  let (negative, digits) := match text.toList with
    | '+' :: rest => (false, rest)
    | '-' :: rest => (true, rest)
    | cs => (false, cs)
  if digits.isEmpty || !digits.all Char.isDigit then none
  else
    let value := digits.foldl (fun n c => 10 * n + (c.toNat - '0'.toNat)) 0
    if value ≤ (if negative then 0 else 4294967295) then some value else none

namespace ArgumentSpec

/-- The name under which the file is kept. -/
def fileKey : String :=
  "file"

def kind? (spec : ArgumentSpec) (key : String) : Option ArgumentKind :=
  (spec.options.find? (·.1 = key)).map (·.2)

def value (spec : ArgumentSpec) (key text : String) : Except ArgumentError ArgumentValue :=
  match spec.kind? key with
  | some .number =>
    match number? text with
    | some n => .ok (.number n)
    | none => .error .wrongValue
  | _ => if text = "" then .error .emptyValue else .ok (.path text)

end ArgumentSpec

namespace ArgumentScan

def start : ArgumentScan :=
  ⟨[], none, false⟩

def has (scan : ArgumentScan) (key : String) : Bool :=
  scan.given.any (·.1 = key)

def set (scan : ArgumentScan) (spec : ArgumentSpec) (key text : String) : Except ArgumentError ArgumentScan :=
  if scan.has key then .error .repeated
  else (spec.value key text).map fun value => { scan with given := scan.given ++ [(key, value)] }

def setFlag (scan : ArgumentScan) (key : String) : Except ArgumentError ArgumentScan :=
  if scan.has key then .error .repeated
  else .ok { scan with given := scan.given ++ [(key, .present)] }

/-- Checks the argument that waits. Errors of its value come to light only here. -/
def settle (scan : ArgumentScan) (spec : ArgumentSpec) : Except ArgumentError ArgumentScan :=
  match scan.pending with
  | none => .ok scan
  | some (_, none) => .error .emptyValue
  | some (key, some text) => { scan with pending := none }.set spec key text

/-- The option of a long argument and the value attached to it. -/
def splitLong (cs : List Char) : String × Option String :=
  match Text.cut? '=' cs with
  | some (name, value) => (String.ofList name, some (String.ofList value))
  | none => (String.ofList cs, none)

def long (scan : ArgumentScan) (spec : ArgumentSpec) (cs : List Char) : Except ArgumentError ArgumentScan :=
  let (name, attached) := splitLong cs
  if name = "help" then
    if attached.isSome then .error .unwantedValue
    else (scan.settle spec).bind fun _ => .error .helpWanted
  else match spec.kind? name, attached with
    | none, _ => .error .unknownArgument
    | some .flag, some _ => .error .unwantedValue
    | some .flag, none => (scan.settle spec).bind (·.setFlag name)
    | some _, some text => (scan.settle spec).bind (·.set spec name text)
    | some _, none => (scan.settle spec).map fun scan => { scan with pending := some (name, none) }

def short (scan : ArgumentScan) (spec : ArgumentSpec) : List Char → Except ArgumentError ArgumentScan
  | 'h' :: _ => (scan.settle spec).bind fun _ => .error .helpWanted
  | _ => .error .unknownArgument

def positional (scan : ArgumentScan) (spec : ArgumentSpec) (text : String) : Except ArgumentError ArgumentScan :=
  if spec.takesFile && !scan.fileTaken then
    (scan.settle spec).map fun scan =>
      { scan with pending := some (ArgumentSpec.fileKey, some text), fileTaken := true }
  else .error .unknownArgument

/-- One argument that does not come after `--`. What starts with a dash is never a value. -/
def step (scan : ArgumentScan) (spec : ArgumentSpec) (text : String) : Except ArgumentError ArgumentScan :=
  match text.toList with
  | '-' :: '-' :: name => scan.long spec name
  | '-' :: c :: cluster => scan.short spec (c :: cluster)
  | _ =>
    match scan.pending with
    | some (key, none) => .ok { scan with pending := some (key, some text) }
    | _ => scan.positional spec text

def run (scan : ArgumentScan) (spec : ArgumentSpec) : List String → Except ArgumentError ArgumentScan
  | [] => scan.settle spec
  | text :: rest =>
    if text = "--" then
      (rest.foldlM (positional · spec ·) scan).bind (·.settle spec)
    else (scan.step spec text).bind fun scan => run scan spec rest

def path? (scan : ArgumentScan) (key : String) : Option String :=
  match scan.given.find? (·.1 = key) with
  | some (_, .path text) => some text
  | _ => none

def number? (scan : ArgumentScan) (key : String) : Option Nat :=
  match scan.given.find? (·.1 = key) with
  | some (_, .number value) => some value
  | _ => none

def source (scan : ArgumentScan) : Source :=
  ⟨scan.path? ArgumentSpec.fileKey, scan.has "stdin", scan.path? "config"⟩

end ArgumentScan

namespace Job

def sourceOptions : List (String × ArgumentKind) :=
  [("stdin", .flag), ("config", .path)]

def positionOptions : List (String × ArgumentKind) :=
  sourceOptions ++ [("line", .number), ("character", .number)]

def names : List String :=
  ["lsp", "complete", "hover", "colors", "swatches"]

/-- The job of a command with its arguments. -/
def ofCommand (name : String) (args : List String) : Except ArgumentError Job :=
  let scan (takesFile : Bool) (options : List (String × ArgumentKind)) : Except ArgumentError ArgumentScan :=
    ArgumentScan.start.run ⟨takesFile, options⟩ args
  match name with
  | "complete" => (scan true positionOptions).map fun scan =>
      .complete scan.source ((scan.number? "line").getD 1) ((scan.number? "character").getD 0)
  | "hover" => (scan true positionOptions).bind fun scan =>
      match scan.number? "line", scan.number? "character" with
      | some line, some character => .ok (.hover scan.source line character)
      | _, _ => .error .missing
  | "colors" => (scan false [("config", .path)]).map fun scan => .colors (scan.path? "config")
  | "swatches" => (scan true sourceOptions).map fun scan => .swatches scan.source
  | _ => (scan false []).map fun _ => .serve

/-- The answer to a request for help about commands. -/
def help : List String → ArgumentError
  | [] => .helpWanted
  | [name] => if names.contains name || name = "help" then .helpWanted else .unknownCommand
  | _ => .unknownCommand

/-- Reads the arguments of the program. Without any the job is left open. -/
def parse : List String → Except ArgumentError (Option Job)
  | [] => .ok none
  | text :: rest =>
    if text = "help" then .error (help rest)
    else if names.contains text then (ofCommand text rest).map some
    else match text.toList with
      | ['-', '-'] =>
        match rest with
        | [] => .ok none
        | name :: _ =>
          .error (if names.contains name || name = "help" then .unknownArgument else .unknownCommand)
      | '-' :: '-' :: long =>
        let (name, attached) := ArgumentScan.splitLong long
        if name ≠ "help" ∧ name ≠ "version" then .error .unknownArgument
        else if attached.isSome then .error .unwantedValue
        else .error (if name = "help" then .helpWanted else .versionWanted)
      | '-' :: 'h' :: _ => .error .helpWanted
      | '-' :: 'V' :: _ => .error .versionWanted
      | '-' :: _ :: _ => .error .unknownArgument
      | _ => .error .unknownCommand

end Job

end ThemeSense
