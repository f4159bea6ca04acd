import ThemeSense.Path
import ThemeSense.Text.Hex

namespace ThemeSense

/-- An absolute URI in normal form: a scheme, an authority if there is one, a path in segments or an
opaque text, and what follows the path. -/
structure Uri where
  scheme : List Char
  authority : Option (List Char)
  segments : Option (List (List Char))
  tail : List Char
deriving Repr, DecidableEq

namespace Uri

def isSchemeChar (c : Char) : Bool :=
  c.isAlphanum || c == '+' || c == '-' || c == '.'

/-- Schemes whose URIs always have a path in segments. -/
def isHierarchical (scheme : List Char) : Bool :=
  ["file", "http", "https", "ws", "wss", "ftp"].contains (String.ofList scheme)

/-- The characters of a path that are written as they are. -/
def isPathChar (c : Char) : Bool :=
  0x20 < c.toNat && c.toNat < 0x7F && !"\"#<>?\x60\x7b\x7d".toList.contains c

def percent (byte : UInt8) : List Char :=
  let digit (n : Nat) : Char := (Nat.digitChar n).toUpper
  ['%', digit (byte.toNat / 16), digit (byte.toNat % 16)]

/-- A segment in which every character that may not stand there is replaced by its bytes. -/
def encode (segment : List Char) : List Char :=
  segment.flatMap fun c =>
    if isPathChar c then [c] else (String.singleton c).toUTF8.data.toList.flatMap percent

/-- The bytes that a segment stands for. -/
def decodeBytes : List Char → List UInt8
  | '%' :: high :: low :: rest =>
    match Hex.value? high, Hex.value? low with
    | some high, some low => UInt8.ofNat (16 * high + low) :: decodeBytes rest
    | _, _ => 0x25 :: decodeBytes (high :: low :: rest)
  | c :: rest => (String.singleton c).toUTF8.data.toList ++ decodeBytes rest
  | [] => []

/-- The text that a segment stands for. One that is not text stands for itself. -/
def decode (segment : List Char) : List Char :=
  match String.fromUTF8? ⟨(decodeBytes segment).toArray⟩ with
  | some text => text.toList
  | none => segment

def isDot (segment : List Char) : Bool :=
  [".", "%2e"].contains (String.ofList (Text.lower segment))

def isDoubleDot (segment : List Char) : Bool :=
  ["..", ".%2e", "%2e.", "%2e%2e"].contains (String.ofList (Text.lower segment))

/-- Adds a segment to those before it: a dot stays in place and two dots go back. Only the last
segment may be empty after such a step. -/
def addSegment (segments : List (List Char)) (segment : List Char) (isLast : Bool) : List (List Char) :=
  if isDoubleDot segment then (if isLast then segments.dropLast ++ [[]] else segments.dropLast)
  else if isDot segment then (if isLast then segments ++ [[]] else segments)
  else segments ++ [encode segment]

def addSegments (segments : List (List Char)) : List (List Char) → List (List Char)
  | [] => segments
  | [segment] => addSegment segments segment true
  | segment :: rest => addSegments (addSegment segments segment false) rest

/-- The part before the first of some characters, and the rest from there on. -/
def cutAt (ends : List Char) (cs : List Char) : List Char × List Char :=
  (cs.takeWhile (!ends.contains ·), cs.dropWhile (!ends.contains ·))

/-- The rest of a URI after its scheme. -/
def ofRest (scheme rest : List Char) : Uri :=
  let rest := if isHierarchical scheme then rest.map fun c => if c = '\\' then '/' else c else rest
  let (front, tail) := cutAt ['?', '#'] rest
  match front with
  | '/' :: '/' :: after =>
    let (authority, path) := cutAt ['/'] after
    let host := if scheme = "file".toList && Text.lower authority = "localhost".toList then [] else authority
    ⟨scheme, some host, some (addSegments [] (Text.split '/' (path.drop 1))), tail⟩
  | '/' :: path => ⟨scheme, if isHierarchical scheme then some [] else none,
      some (addSegments [] (Text.split '/' path)), tail⟩
  | path =>
    if isHierarchical scheme then ⟨scheme, some [], some (addSegments [] (Text.split '/' path)), tail⟩
    else ⟨scheme, none, none, path ++ tail⟩

/-- Reads an absolute URI. Blanks around it and line ends inside it do not count. -/
def parse? (text : String) : Option Uri :=
  let isOuter (c : Char) : Bool := c.toNat ≤ 0x20
  let trimmed := ((text.toList.dropWhile isOuter).reverse.dropWhile isOuter).reverse
  let cs := trimmed.filter fun c => c != '\t' && c != '\n' && c != '\r'
  match Text.cut? ':' cs with
  | some (scheme, rest) =>
    if (scheme.head?.any Char.isAlpha) && scheme.all isSchemeChar then some (ofRest (Text.lower scheme) rest)
    else none
  | none => none

/-- The file that a URI names: it has a path and no host but this one. -/
def path? (uri : Uri) : Option Path :=
  match uri.segments with
  | none => none
  | some segments =>
    if uri.authority.all fun host => host.isEmpty || host = "localhost".toList then
      some (Path.ofText (String.ofList ('/' :: Text.join ['/'] (segments.map decode))))
    else none

end Uri

end ThemeSense
