import ThemeSense.Completion.Provider
import ThemeSense.DocumentColor
import ThemeSense.Proofs.Theme.Answers

namespace ThemeSense

/-- The ways to get at the colors of a theme. -/
inductive ColorAccess where
  | source
  | table
  | all
  | one (name : String)
  | completions
  | document (text : List Char)

inductive ColorAccess.Answer where
  | table (found : Option ColorTable)
  | listed (colors : List NamedValue)
  | named (color : Option NamedValue)
  | suggested (suggestions : List Suggestion)
  | located (colors : List DocumentColor)

/-- What an access makes of the table that it finds. -/
def ColorAccess.answer : ColorAccess → Option ColorTable → ColorAccess.Answer
  | .source, found => .table found
  | .table, found => .table found
  | .all, found => .listed ((found.map ColorTable.entries).getD [])
  | .one name, found => .named ((found.bind (·.lookup name)).map (⟨name, ·⟩))
  | .completions, found => .suggested (Suggestion.colors found)
  | .document text, found => .located ((Mention.all text).filterMap fun mention =>
      (Rgba.parse (mention.value found)).toOption.map (⟨mention.range text, ·⟩))

namespace Theme

/-- How often the color function has been invoked. -/
def calls (theme : Theme) : Nat :=
  match theme.colors with
  | some (.function function) => function.calls
  | _ => 0

end Theme

namespace ColorFunction

/-- The function as a number of accesses leave it. -/
def after (function : ColorFunction) (count : Nat) : ColorFunction :=
  (fun function => function.invoke.2)^[count] function

end ColorFunction

/-- The invocation with this number is the first one that fails. -/
structure FailsFirst (result : Nat → Except ThemeError ColorTable) (first : Nat) : Prop where
  fails : (result first).isOk = false
  before : ∀ earlier < first, (result earlier).isOk = true

theorem FailsFirst.unique {result : Nat → Except ThemeError ColorTable} {first other : Nat}
    (one : FailsFirst result first) (two : FailsFirst result other) : first = other := by
  rcases Nat.lt_trichotomy first other with less | same | more
  · simpa [one.fails] using two.before first less
  · exact same
  · simpa [two.fails] using one.before other more

namespace ColorFunction

variable {result : Nat → Except ThemeError ColorTable} {count : Nat}

end ColorFunction

namespace Theme

variable {ι : Type}

variable (themes : ι → Theme)

end Theme

end ThemeSense
