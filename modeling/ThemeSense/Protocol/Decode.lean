import ThemeSense.Json.Basic

namespace ThemeSense.Decode

variable {α : Type}

def text? : Json → Option String
  | .str value => some value
  | _ => none

def flag? : Json → Option Bool
  | .bool value => some value
  | _ => none

/-- A whole number between two bounds. -/
def whole? (low high : Int) : Json → Option Int
  | .num (.int value) => if low ≤ value ∧ value ≤ high then some value else none
  | _ => none

/-- A signed number of 32 bits. -/
def int32? : Json → Option Int :=
  whole? (-2147483648) 2147483647

/-- An unsigned number of 32 bits. -/
def nat32? (json : Json) : Option Nat :=
  (whole? 0 4294967295 json).map Int.toNat

def single? : Json → Option Float32
  | .num (.int value) => some (Float.ofInt value).toFloat32
  | .num (.float value) => some value.toFloat32
  | _ => none

def list? (item? : Json → Option α) : Json → Option (List α)
  | .arr items => items.mapM item?
  | _ => none

/-- Any value other than `null`. -/
def any? : Json → Option Json
  | .null => none
  | json => some json

/-- A record: an object, or a list of the values of all its members in order. -/
def record? (names : List String) : Json → Option Json
  | .obj members => some (.obj members)
  | .arr items => if items.length = names.length then some (.obj (names.zip items)) else none
  | _ => none

/-- A member that must be there. -/
def member (json : Json) (key : String) (item? : Json → Option α) : Option α :=
  (json.member? key).bind item?

/-- A member that may be absent or `null`. -/
def optional (json : Json) (key : String) (item? : Json → Option α) : Option (Option α) :=
  match json.member? key with
  | none => some none
  | some .null => some none
  | some value => (item? value).map some

/-- The members named here that are there, each in its proper form. -/
def kept (json : Json) : List (String × (Json → Option Json)) → Option (List (String × Json))
  | [] => some []
  | (key, item?) :: rest =>
    match optional json key item?, kept json rest with
    | some (some value), some others => some ((key, value) :: others)
    | some none, some others => some others
    | _, _ => none

/-- A record that is passed on: known members only, the first ones being required. -/
def passed? (required allowed : List (String × (Json → Option Json))) (json : Json) : Option Json :=
  (record? ((required ++ allowed).map (·.1)) json).bind fun json =>
    match required.mapM fun (key, item?) => (member json key item?).map (key, ·), kept json allowed with
    | some first, some others => some (.obj (first ++ others))
    | _, _ => none

end ThemeSense.Decode
