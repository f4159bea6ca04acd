import ThemeSense.Color.Css.Parser

namespace ThemeSense

/-- Reads a color: digits after a hash sign, or any other color that CSS can write. -/
def Rgba.parse (text : String) : Except ColorError Rgba :=
  match Text.trim text.toList with
  | [] => .error .empty
  | '#' :: digits => Rgba.ofHex digits
  | cs =>
    match Css.parse? cs with
    | some color => .ok color
    | none => .error .notCss

end ThemeSense
