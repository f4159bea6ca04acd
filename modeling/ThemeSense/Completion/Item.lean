import ThemeSense.Completion.Record

namespace ThemeSense

/-- An action that the editor takes after inserting a suggestion. -/
structure Command where
  title : String
  command : String
  arguments : Option (List Json)

/-- Documentation as editors take it: bare text, or text that names its markup. -/
inductive MarkedText where
  | bare (text : String)
  | plaintext (text : String)
  | markdown (text : String)
deriving Repr, DecidableEq

def MarkedText.ofDocumentation : Documentation → MarkedText
  | .plain text => .bare text
  | .markdown text => .markdown text

/-- A suggestion in the form of the editor protocol. Members that are only passed on are in
`others`. -/
structure CompletionItem where
  label : String
  kind : Option Int
  detail : Option String
  documentation : Option MarkedText
  sortText : Option String
  insertText : Option String
  command : Option Command
  data : Option Json
  others : List (String × Json)

namespace CompletionItem

/-- The protocol's code for a color. -/
def colorKind : Int :=
  16

def kindOf : Category → Int
  | .atRule => 15
  | .color => colorKind
  | .operator => 24
  | _ => 12

/-- At least five digits, so that the order of texts is that of ranks. -/
def rankText (rank : Nat) : String :=
  let digits := Nat.toDigits 10 rank
  String.ofList (List.replicate (5 - digits.length) '0' ++ digits)

/-- Opens the list of suggestions again. -/
def suggest : Command :=
  ⟨"Suggest", "editor.action.triggerSuggest", none⟩

def swatchMembers (swatch : Swatch) : List (String × Json) := [
  ("color", .str swatch.shown),
  ("type", .str "color"),
  ("colorValue", .str swatch.shown),
  ("originalColor", .str swatch.written)]

def ofSuggestion (suggestion : Suggestion) : CompletionItem where
  label := suggestion.label
  kind := some (kindOf suggestion.category)
  detail := some suggestion.detail
  documentation := suggestion.documentation.map .ofDocumentation
  sortText := some (rankText suggestion.rank)
  insertText := if suggestion.category = .atRule then some suggestion.label else none
  command := if suggestion.category = .atRule then some suggest else none
  data := suggestion.swatch.map fun swatch => .obj (swatchMembers swatch)
  others := []

/-- The members of the data, if it is an object. -/
def dataMembers (item : CompletionItem) : Table Json :=
  match item.data with
  | some (.obj members) => members
  | _ => []

def dataText? (members : Table Json) (key : String) : Option String :=
  match members.get? key with
  | some (.str value) => some value
  | _ => none

/-- The color that a detail names after `Color: `. -/
def detailColor? (item : CompletionItem) : Option String :=
  (item.detail.bind fun detail => Text.after? "Color: ".toList detail.toList).map String.ofList

/-- The color of an item: from its data, or else from its detail. -/
def swatch? (item : CompletionItem) : Option Swatch :=
  let members := item.dataMembers
  match dataText? members "colorValue" <|> dataText? members "color" with
  | some shown => some ⟨shown, (dataText? members "originalColor").getD shown⟩
  | none => item.detailColor?.map fun color => ⟨color, color⟩

/-- Adds what an editor needs to show a swatch. Only colors are touched. -/
def resolve (item : CompletionItem) : CompletionItem :=
  if item.kind = some colorKind then
    match item.swatch? with
    | none => item
    | some swatch =>
      let data := (swatchMembers swatch).foldl (fun table (key, value) => table.insert key value) item.dataMembers
      let named :=
        swatch.written ≠ swatch.shown ∧ swatch.written ≠ "transparent" ∧ swatch.shown ≠ "transparent"
      { item with
        documentation := some (.bare swatch.shown)
        data := some (.obj data)
        detail := if named then some s!"Color: {swatch.written} ({swatch.shown})" else item.detail }
  else item

end CompletionItem

end ThemeSense
