import ThemeSense.Table
import ThemeSense.Text.Blank

namespace ThemeSense

inductive Comparison where
  | atLeast
  | atMost
  | above
  | below
deriving Repr, DecidableEq

namespace Comparison

def symbol : Comparison → String
  | .atLeast => ">="
  | .atMost => "<="
  | .above => ">"
  | .below => "<"

def words : Comparison → String
  | .atLeast => "greater than or equal to"
  | .atMost => "less than or equal to"
  | .above => "greater than"
  | .below => "less than"

def holds : Comparison → Nat → Nat → Bool
  | .atLeast, index, reference => index ≥ reference
  | .atMost, index, reference => index ≤ reference
  | .above, index, reference => index > reference
  | .below, index, reference => index < reference

/-- Longer symbols come before those they begin with. -/
def all : List Comparison :=
  [.atLeast, .atMost, .above, .below]

end Comparison

/-- A set of breakpoints in its written form: `a/b`, `a,b`, `>=a` or `a`. -/
inductive Collection where
  | range (first last : String)
  | list (members : List String)
  | compare (comparison : Comparison) (breakpoint : String)
  | alias (breakpoint : String)
deriving Repr, DecidableEq

namespace Collection

def trimmed (cs : List Char) : String :=
  String.ofList (Text.trim cs)

def comparison? (cs : List Char) : Option Collection :=
  Comparison.all.findSome? fun comparison =>
    (Text.after? comparison.symbol.toList cs).map fun rest => .compare comparison (trimmed rest)

def parse (text : String) : Collection :=
  let cs := Text.trim text.toList
  match Text.cut? '/' cs with
  | some (first, last) => .range (trimmed first) (trimmed last)
  | none =>
    if cs.contains ',' then .list ((Text.split ',' cs).map trimmed)
    else (comparison? cs).getD (.alias (String.ofList cs))

/-- The names from `first` through `last`. Without `first` there are none, without `last` they run
to the end. -/
def between (first last : String) : Bool → List String → List String
  | _, [] => []
  | open_, name :: rest =>
    let inside := open_ || name = first
    (if inside then [name] else []) ++ between first last (inside && name ≠ last) rest

/-- The names whose place compares with that of `breakpoint` as asked. -/
def compared (comparison : Comparison) (breakpoint : String) (axis : List String) : List String :=
  match axis.findIdx? (· = breakpoint) with
  | none => []
  | some reference => (axis.zipIdx.filter fun (_, index) => comparison.holds index reference).map (·.1)

/-- The breakpoints that a collection selects from the axis of declared names. -/
def expand (collection : Collection) (axis : List String) : List String :=
  match collection with
  | .range first last => between first last false axis
  | .list members => members
  | .compare comparison breakpoint => compared comparison breakpoint axis
  | .alias breakpoint => if axis.contains breakpoint then [breakpoint] else []

def code (text : String) : String :=
  "\x60" ++ text ++ "\x60"

def breakpointLine (breakpoints : Table String) (name : String) : String :=
  match breakpoints.get? name with
  | some value => s!"- {code name}: {code value}\n"
  | none => s!"- {code name}: (unknown value)\n"

/-- An explanation in Markdown. -/
def describe (collection : Collection) (breakpoints : Table String) : String :=
  match collection with
  | .range first last =>
    s!"Includes all breakpoints from {code first} to {code last}.\n\n**Included breakpoints:**\n\n" ++
      String.join ((between first last false breakpoints.names).map (breakpointLine breakpoints))
  | .list members =>
    "Includes the following breakpoints:\n\n" ++ String.join (members.map (breakpointLine breakpoints))
  | .compare comparison breakpoint =>
    let opening := s!"All breakpoints {comparison.words} {code breakpoint}."
    match breakpoints.get? breakpoint with
    | none => opening
    | some value =>
      let reference := s!"{opening}\n\nReference value: {code breakpoint} = {code value}"
      match compared comparison breakpoint breakpoints.names with
      | [] => reference
      | matched => s!"{reference}\n\n**Matches:** " ++ String.intercalate ", " (matched.map code)
  | .alias breakpoint =>
    match breakpoints.get? breakpoint with
    | some value => s!"Alias for breakpoint {code breakpoint} ({code value})."
    | none => s!"Alias for {code breakpoint} (unknown breakpoint)."

end Collection

end ThemeSense
