import ThemeSense.Json.Basic
import ThemeSense.Text.Blank

namespace ThemeSense

/-- A member of a color group. What is nested deeper has no name that reaches it. -/
inductive GroupMember where
  | value (color : String)
  | nested (content : Json)

/-- One entry of a color table. -/
inductive ColorEntry where
  | value (color : String)
  | group (members : Table GroupMember)

/-- Colors and groups of colors in the order of their declaration. -/
structure ColorTable where
  rows : Table ColorEntry

/-- A color under the name by which a stylesheet refers to it. -/
structure NamedValue where
  name : String
  value : String
deriving Repr, DecidableEq

def GroupMember.color? : GroupMember → Option String
  | .value color => some color
  | .nested _ => none

def groupColors (group : String) (members : Table GroupMember) : List NamedValue :=
  members.filterMap fun (name, member) => member.color?.map (⟨group ++ "." ++ name, ·⟩)

namespace ColorTable

def empty : ColorTable :=
  ⟨[]⟩

/-- The colors outside groups. -/
def flat (table : ColorTable) : List NamedValue :=
  table.rows.filterMap fun (name, entry) => match entry with
    | .value color => some ⟨name, color⟩
    | .group _ => none

/-- The colors inside groups, each under the name of its group, a dot and its own. -/
def nested (table : ColorTable) : List NamedValue :=
  table.rows.flatMap fun (name, entry) => match entry with
    | .value _ => []
    | .group members => groupColors name members

/-- Every color that can be referred to, groups expanded in place. -/
def entries (table : ColorTable) : List NamedValue :=
  table.rows.flatMap fun (name, entry) => match entry with
    | .value color => [⟨name, color⟩]
    | .group members => groupColors name members

/-- The color of a group member. -/
def member? (table : ColorTable) (group member : String) : Option String :=
  match table.rows.get? group with
  | some (.group members) => (members.get? member).bind GroupMember.color?
  | _ => none

/-- The color with this name: one outside groups first, then `group.member`. -/
def lookup (table : ColorTable) (name : String) : Option String :=
  match table.rows.get? name with
  | some (.value color) => some color
  | _ =>
    match Text.split '.' name.toList with
    | [group, member] => table.member? (String.ofList group) (String.ofList member)
    | _ => none

end ColorTable

end ThemeSense
