import ThemeSense.Path

namespace ThemeSense

/-- Why a file cannot be read. -/
inductive FileError where
  | missing
  | notDirectory
  | isDirectory
  | notText
deriving Repr, DecidableEq

def FileError.message : FileError → String
  | .missing => "No such file or directory (os error 2)"
  | .notDirectory => "Not a directory (os error 20)"
  | .isDirectory => "Is a directory (os error 21)"
  | .notText => "stream did not contain valid UTF-8"

/-- What reading the file at a path gives. -/
abbrev Disk := Path → Except FileError ByteArray

namespace Disk

def isFile (disk : Disk) (path : Path) : Bool :=
  (disk path).toBool

def readText (disk : Disk) (path : Path) : Except FileError String :=
  match disk path with
  | .error e => .error e
  | .ok content =>
    match String.fromUTF8? content with
    | some text => .ok text
    | none => .error .notText

end Disk

/-- Files and directories under one root, each by the names that lead to it. -/
structure FileTree where
  files : List (List (List Char) × ByteArray)
  directories : List (List (List Char))

namespace FileTree

def empty : FileTree :=
  ⟨[], [[]]⟩

def file? (tree : FileTree) (place : List (List Char)) : Option ByteArray :=
  (tree.files.find? (·.1 = place)).map (·.2)

def isDirectory (tree : FileTree) (place : List (List Char)) : Bool :=
  tree.directories.contains place

/-- Makes a directory and all directories above it. -/
def makeDirectory (tree : FileTree) (place : List (List Char)) : FileTree :=
  { tree with directories := (List.range (place.length + 1)).map place.take ++ tree.directories }

def write (tree : FileTree) (place : List (List Char)) (content : ByteArray) : FileTree :=
  let tree := tree.makeDirectory place.dropLast
  { tree with files := (place, content) :: tree.files.filter (·.1 ≠ place) }

/-- Removes a file, or a directory and all that is in it. -/
def delete (tree : FileTree) (place : List (List Char)) : FileTree :=
  ⟨tree.files.filter (!place.isPrefixOf ·.1), tree.directories.filter (!place.isPrefixOf ·)⟩

/-- Follows the pieces of a path from a directory. Two dots lead one step up, and only from a
directory that exists. -/
def walk (tree : FileTree) (place : List (List Char)) : List (List Char) → Except FileError (List (List Char))
  | [] => .ok place
  | piece :: rest =>
    if tree.isDirectory place then
      if Path.isIdle piece then tree.walk place rest
      else if piece = ['.', '.'] then tree.walk place.dropLast rest
      else tree.walk (place ++ [piece]) rest
    else if (tree.file? place).isSome then .error .notDirectory
    else .error .missing

/-- Reads files relative to a working directory. -/
def disk (tree : FileTree) (workingDirectory : List (List Char)) : Disk := fun path =>
  if path.isEmpty then .error .missing
  else match tree.walk (if path.rooted then [] else workingDirectory) path.pieces with
    | .error e => .error e
    | .ok place =>
      match tree.file? place with
      | some content => .ok content
      | none => .error (if tree.isDirectory place then .isDirectory else .missing)

end FileTree

end ThemeSense
