namespace ThemeSense

/-- Named values in the order in which their names were first declared. -/
abbrev Table (α : Type) := List (String × α)

namespace Table

variable {α β : Type}

def get? : Table α → String → Option α
  | [], _ => none
  | (key, value) :: rest, name => if key = name then some value else get? rest name

def names (table : Table α) : List String :=
  table.map (·.1)

/-- Declares a name: a new one goes to the end, a known one keeps its place and takes the value. -/
def insert : Table α → String → α → Table α
  | [], name, value => [(name, value)]
  | (key, old) :: rest, name, value =>
    if key = name then (key, value) :: rest else (key, old) :: insert rest name value

/-- The table that a list of declarations leaves. -/
def ofList (members : List (String × α)) : Table α :=
  members.foldl (fun table (name, value) => table.insert name value) []

/-- Converts every value, or nothing if one of them cannot be converted. -/
def mapM? (f : α → Option β) : Table α → Option (Table β)
  | [] => some []
  | (name, value) :: rest =>
    match f value, mapM? f rest with
    | some value, some rest => some ((name, value) :: rest)
    | _, _ => none

end Table

end ThemeSense
