import ThemeSense.Color.Named
import ThemeSense.Cursor.Slot
import ThemeSense.Theme.Basic

namespace ThemeSense

/-- What a suggestion is about. -/
inductive Category where
  | atRule
  | colorTarget
  | color
  | collection
  | breakpoint
  | operator
  | fontFamily
  | fontSize
  | spacing
deriving Repr, DecidableEq

def Category.name : Category → String
  | .atRule => "atRule"
  | .colorTarget => "colorTarget"
  | .color => "color"
  | .collection => "breakpointCollection"
  | .breakpoint => "breakpoint"
  | .operator => "operator"
  | .fontFamily => "fontFamily"
  | .fontSize => "fontSize"
  | .spacing => "spacing"

inductive Documentation where
  | plain (text : String)
  | markdown (text : String)
deriving Repr, DecidableEq

/-- A color for a swatch: in hexadecimal notation if it has a name, and as written. -/
structure Swatch where
  shown : String
  written : String
deriving Repr, DecidableEq

/-- One suggestion. Suggestions are shown in the order of their ranks. -/
structure Suggestion where
  label : String
  category : Category
  detail : String
  documentation : Option Documentation
  rank : Nat
  swatch : Option Swatch
deriving Repr, DecidableEq

namespace Suggestion

def plain (label : String) (category : Category) (detail : String) : Suggestion :=
  ⟨label, category, detail, none, 0, none⟩

def documented (suggestion : Suggestion) (documentation : Documentation) : Suggestion :=
  { suggestion with documentation := some documentation }

/-- Numbers suggestions in the order in which they are listed. -/
def ranked (suggestions : List Suggestion) : List Suggestion :=
  suggestions.zipIdx.map fun (suggestion, rank) => { suggestion with rank := rank }

end Suggestion

end ThemeSense
