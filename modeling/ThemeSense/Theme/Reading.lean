import ThemeSense.Theme.Basic

namespace ThemeSense

namespace Json

/-- The CSS text of a string, number or truth value. -/
def cssText? : Json → Option String
  | .str value => some value
  | .num (.int n) =>
    if n < Int.pow 2 63 then some (String.ofList (Number.int n).text)
    else some (String.ofList (Number.float (Float.ofInt n)).text)
  | .num (.float x) => some (String.ofList (Number.float x).text)
  | .bool value => some (if value then "true" else "false")
  | _ => none

def text? : Json → Option String
  | .str value => some value
  | _ => none

/-- An object whose values all convert. Every declaration has to, also one that a later one of the
same key replaces. -/
def table? {α : Type} (read : Json → Option α) : Json → Option (Table α)
  | .obj members => (Table.mapM? read members).map Table.ofList
  | _ => none

/-- The fields of a record. It is an object, or an array in the order of the fields that may stop
early. -/
def fields? (names : List String) : Json → Option (List (Option Json))
  | .obj members => some (names.map (Table.get? members))
  | .arr items =>
    if items.length ≤ names.length then
      some (items.map some ++ List.replicate (names.length - items.length) none)
    else none
  | _ => none

end Json

def GroupMember.ofJson : Json → GroupMember
  | .str color => .value color
  | json => .nested json

def ColorEntry.ofJson? : Json → Option ColorEntry
  | .str color => some (.value color)
  | .obj members =>
    some (.group (Table.ofList (members.map fun (name, json) => (name, GroupMember.ofJson json.merged))))
  | _ => none

def ColorTable.ofJson? (json : Json) : Option ColorTable :=
  (json.table? ColorEntry.ofJson?).map ColorTable.mk

def FontFamily.ofJson? : Json → Option FontFamily
  | .str font => some (.single font)
  | .arr fonts => (fonts.mapM Json.text?).map .stack
  | _ => none

def SizeValue.ofJson? (json : Json) : Option SizeValue :=
  match json.cssText? with
  | some value => some (.shorthand value)
  | none => (json.table? Json.cssText?).map .properties

def FontSize.ofJson? (json : Json) : Option FontSize :=
  match json.cssText? with
  | some value => some (.fixed value)
  | none => (json.table? SizeValue.ofJson?).map .responsive

def SpacingValue.ofJson (json : Json) : SpacingValue :=
  match json.cssText? with
  | some value => .length value
  | none => .nested json

/-- One section of the theme: absent, null or misshapen, it takes its default. -/
def section? {α : Type} (read : Json → Option α) (default : α) : Option Json → α
  | none => default
  | some .null => default
  | some json => (read json).getD default

/-- The part of a theme that is about type. -/
structure Typography where
  families : Table FontFamily
  sizes : Table FontSize

def typographyFields : List String :=
  ["families", "sizes"]

def themeFields : List String :=
  ["colors", "breakpoints", "breakpointCollections", "typography", "spacing"]

def Typography.ofSections (families sizes : Option Json) : Typography where
  families := section? (Json.table? FontFamily.ofJson?) [] families
  sizes := section? (Json.table? FontSize.ofJson?) [] sizes

def Typography.ofJson (typography : Option Json) : Typography :=
  match section? (Json.fields? typographyFields) [] typography with
  | [families, sizes] => .ofSections families sizes
  | _ => .ofSections none none

/-- Converts each section on its own. A color source that is given stands in for the section. -/
def Theme.ofSections (source : Option ColorSource)
    (colors breakpoints collections typography spacing : Option Json) : Theme :=
  let typography := Typography.ofJson typography
  { colors := source <|> section? (fun json => (ColorTable.ofJson? json).map (some ∘ ColorSource.table)) none colors
    breakpoints := section? (Json.table? Json.cssText?) [] breakpoints
    collections := section? (Json.table? Json.cssText?) [] collections
    families := typography.families
    sizes := typography.sizes
    spacing := section? (Json.table? (some ∘ SpacingValue.ofJson)) [] spacing }

/-- The theme of a config without repeated keys. -/
def Theme.ofJson (source : Option ColorSource) (theme : Option Json) : Theme :=
  match section? (Json.fields? themeFields) [] theme with
  | [colors, breakpoints, collections, typography, spacing] =>
    .ofSections source colors breakpoints collections typography spacing
  | _ => .ofSections source none none none none none

end ThemeSense
