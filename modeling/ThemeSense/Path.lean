import ThemeSense.Text.Blank

namespace ThemeSense

/-- A path as written: what stands between its slashes, and whether it starts with one. -/
structure Path where
  rooted : Bool
  pieces : List (List Char)
deriving Repr, DecidableEq

namespace Path

def ofText (text : String) : Path :=
  match text.toList with
  | '/' :: rest => ⟨true, Text.split '/' rest⟩
  | cs => ⟨false, Text.split '/' cs⟩

def text (path : Path) : String :=
  let pieces := Text.join ['/'] path.pieces
  String.ofList (if path.rooted then '/' :: pieces else pieces)

/-- A piece that takes no step: nothing between two slashes, or a dot. -/
def isIdle (piece : List Char) : Bool :=
  piece.isEmpty || piece == ['.']

def dropIdle (pieces : List (List Char)) : List (List Char) :=
  (pieces.reverse.dropWhile isIdle).reverse

/-- The dot with which a relative path starts; unlike any other dot it counts. -/
def dot (path : Path) : List (List Char) :=
  if !path.rooted && path.pieces.head? == some ['.'] then [['.']] else []

/-- The pieces after the leading dot. -/
def body (path : Path) : List (List Char) :=
  path.pieces.drop path.dot.length

/-- The steps of a path, of which the first is the root if there is one. Two paths with the same
components are equal to every comparison. -/
def components (path : Path) : List (List Char) :=
  (if path.rooted then [['/']] else []) ++ path.dot ++ path.body.filter (!isIdle ·)

/-- The path without its last component. The root and the empty path have no parent. -/
def parent? (path : Path) : Option Path :=
  let pieces := dropIdle path.body
  if pieces.isEmpty then (if path.dot.isEmpty then none else some ⟨false, []⟩)
  else some ⟨path.rooted, path.dot ++ dropIdle pieces.dropLast⟩

/-- The path of an entry of a directory. -/
def join (path : Path) (name : List Char) : Path :=
  match path.pieces.getLast? with
  | some [] => ⟨path.rooted, path.pieces.dropLast ++ [name]⟩
  | _ => ⟨path.rooted, path.pieces ++ [name]⟩

/-- Whether a path leads to a place inside another one, or to that place itself. -/
def isWithin (path base : Path) : Bool :=
  base.components.isPrefixOf path.components

def sameAs (path other : Path) : Bool :=
  path.components == other.components

/-- The last component, if it is the name of an entry. -/
def fileName? (path : Path) : Option (List Char) :=
  match path.components.getLast? with
  | some name => if name == ['/'] || name == ['.'] || name == ['.', '.'] then none else some name
  | none => none

def isEmpty (path : Path) : Bool :=
  !path.rooted && (path.pieces == [] || path.pieces == [[]])

theorem dropIdle_length_le (pieces : List (List Char)) : (dropIdle pieces).length ≤ pieces.length := by
  have shorter := (List.dropWhile_sublist isIdle (l := pieces.reverse)).length_le
  simpa [dropIdle] using shorter

theorem dot_length_le (path : Path) : path.dot.length ≤ path.pieces.length := by
  unfold dot
  split
  · cases atPieces : path.pieces <;> simp_all
  · simp

/-- Going up makes a path shorter, so every walk upwards ends. -/
theorem parent?_length_lt {path up : Path} (above : path.parent? = some up) :
    up.pieces.length < path.pieces.length := by
  have start := path.dot_length_le
  have rest : path.body.length = path.pieces.length - path.dot.length := List.length_drop
  have shorter := dropIdle_length_le path.body
  simp only [parent?] at above
  split at above
  · split at above
    · cases above
    · rename_i dotted
      cases above
      have positive : 0 < path.dot.length := List.length_pos_iff.mpr (by simpa using dotted)
      simp only [List.length_nil]
      omega
  · rename_i stepped
    cases above
    have last := dropIdle_length_le (dropIdle path.body).dropLast
    have positive : 0 < (dropIdle path.body).length := List.length_pos_iff.mpr (by simpa using stepped)
    simp only [List.length_append, List.length_dropLast] at last ⊢
    omega

end Path

end ThemeSense
