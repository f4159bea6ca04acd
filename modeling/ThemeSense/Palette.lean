import ThemeSense.Color.Named
import ThemeSense.ColorQuery
import ThemeSense.Mention

namespace ThemeSense

/-- A swatch to draw over a mention. -/
structure Decoration where
  range : Range
  color : String
deriving Repr, DecidableEq

/-- The colors that an editor has learnt, the names that it has asked about and not yet learnt, and
the queries that nobody has taken yet. Without a connection no query is sent. -/
structure Palette where
  known : Table String
  awaited : List String
  sent : List ColorQuery
  connected : Bool

/-- What one pass over a text draws, and how many names it asked about. -/
structure Pass where
  decorations : List Decoration
  asked : Nat

namespace Palette

def empty : Palette :=
  ⟨[], [], [], true⟩

def send? (palette : Palette) (query : ColorQuery) : Option Palette :=
  if palette.connected then some { palette with sent := palette.sent ++ [query] } else none

/-- Asks about a color unless its answer is awaited already. Tells whether a query was sent. -/
def ask (palette : Palette) (name : String) : Bool × Palette :=
  if name ∈ palette.awaited then (false, palette)
  else match palette.send? (.one name) with
    | none => (false, palette)
    | some palette => (true, { palette with awaited := palette.awaited ++ [name] })

def askAll (palette : Palette) : Palette :=
  (palette.send? .all).getD palette

/-- Takes in a color, whether it was asked for or not. One without a name or a value is ignored. -/
def learn (palette : Palette) (color : NamedValue) : Palette :=
  if color.name = "" ∨ color.value = "" then palette
  else { palette with
    known := palette.known.insert color.name color.value
    awaited := palette.awaited.filter (· ≠ color.name) }

def learnAll (palette : Palette) (colors : List NamedValue) : Palette :=
  colors.foldl learn palette

/-- The theme has changed: nothing that was learnt or asked counts any more. -/
def forget (palette : Palette) : Palette :=
  { palette with known := [], awaited := [] }

/-- Hands over the queries sent so far. -/
def takeSent (palette : Palette) : List ColorQuery × Palette :=
  (palette.sent, { palette with sent := [] })

def disconnect (palette : Palette) : Palette :=
  { palette with connected := false }

/-- The best value for a name right now. An unknown name is asked about and has the value of the CSS
color with that name in the meantime. -/
def color (palette : Palette) (name : String) : Option String × Palette :=
  if name.toList.head? = some '#' then (some name, palette)
  else match palette.known.get? name with
    | some value => (some value, palette)
    | none => (builtinColor? name <|> namedColor? name, (palette.ask name).2)

def mentionColor (palette : Palette) (mention : Mention) : Option String × Palette :=
  match mention.kind with
  | .hex => (some (String.ofList mention.name), palette)
  | .theme => palette.color (String.ofList mention.name)

def decorateMentions (text : List Char) : List Mention → Palette → Pass × Palette
  | [], palette => (⟨[], 0⟩, palette)
  | mention :: rest, palette =>
    let (color, next) := palette.mentionColor mention
    let (pass, last) := decorateMentions text rest next
    let drawn := (color.map (⟨mention.range text, ·⟩)).toList
    let asked := if palette.awaited.length < next.awaited.length then 1 else 0
    (⟨drawn ++ pass.decorations, asked + pass.asked⟩, last)

/-- Draws every mention whose color has a value and asks about the unknown ones. -/
def decorate (palette : Palette) (text : List Char) : Pass × Palette :=
  decorateMentions text (Mention.all text) palette

end Palette

end ThemeSense
