import ThemeSense.Theme.ColorTable

namespace ThemeSense

/-- Why the function that should give the color table gave none. -/
inductive ThemeError where
  | colorFunction (reason : String)
deriving Repr, DecidableEq

def ThemeError.message : ThemeError → String
  | .colorFunction reason => "color table function failed: " ++ reason

/-- A function that gives the color table, by the results of its invocations one after another. It
is invoked on every access until it fails, and then never again. -/
structure ColorFunction where
  result : Nat → Except ThemeError ColorTable
  calls : Nat
  failed : Bool

def ColorFunction.ofResults (result : Nat → Except ThemeError ColorTable) : ColorFunction :=
  ⟨result, 0, false⟩

def ColorFunction.invoke (function : ColorFunction) : Option ColorTable × ColorFunction :=
  if function.failed then (none, function)
  else
    let called := { function with calls := function.calls + 1 }
    match function.result function.calls with
    | .ok table => (some table, called)
    | .error _ => (none, { called with failed := true })

/-- Where the color table comes from. -/
inductive ColorSource where
  | table (known : ColorTable)
  | function (producer : ColorFunction)

/-- Reads the color table and gives the source as the access leaves it. -/
def ColorSource.resolve : ColorSource → Option ColorTable × ColorSource
  | .table known => (some known, .table known)
  | .function producer =>
    let (answer, producer) := producer.invoke
    (answer, .function producer)

/-- A short text for the state of the source. -/
def ColorSource.state : ColorSource → String
  | .table _ => "Table"
  | .function producer => "Lazy \x7b failed: " ++ (if producer.failed then "true" else "false") ++ " \x7d"

end ThemeSense
