import ThemeSense.Decimal.Shortest
import ThemeSense.Table

namespace ThemeSense

/-- A number as written: whole numbers stay whole, every other literal is a double. -/
inductive Number where
  | int (value : Int)
  | float (value : Float)
deriving Repr, BEq

/-- A JSON document. Objects keep their members as written, repeated keys included. -/
inductive Json where
  | null
  | bool (value : Bool)
  | num (value : Number)
  | str (value : String)
  | arr (items : List Json)
  | obj (members : List (String × Json))
deriving Repr, BEq

/-- Decimal text of a number, never with an exponent. -/
def Number.text : Number → List Char
  | .int value => (toString value).toList
  | .float value => (Binary.ofDouble value).text

namespace Json

mutual

/-- The document with repeated keys resolved: a key keeps its first place and its last value. -/
def merged : Json → Json
  | .arr items => .arr (mergedItems items)
  | .obj members => .obj (Table.ofList (mergedMembers members))
  | .null => .null
  | .bool value => .bool value
  | .num value => .num value
  | .str value => .str value

def mergedItems : List Json → List Json
  | [] => []
  | item :: rest => merged item :: mergedItems rest

def mergedMembers : List (String × Json) → List (String × Json)
  | [] => []
  | (key, value) :: rest => (key, merged value) :: mergedMembers rest

end

/-- The value of a member, the last one if its key is repeated. -/
def member? (json : Json) (key : String) : Option Json :=
  match json with
  | .obj members => (members.reverse.find? (·.1 = key)).map (·.2)
  | _ => none

/-- The members of an object from which absent values have been left out. -/
def compact (members : List (String × Option Json)) : Json :=
  .obj (members.filterMap fun (key, value) => value.map (key, ·))

def nat (n : Nat) : Json :=
  .num (.int n)

def strings (items : List String) : Json :=
  .arr (items.map .str)

end Json

end ThemeSense
