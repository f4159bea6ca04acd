import ThemeSense.Protocol.Decode
import ThemeSense.Text.Position

namespace ThemeSense

def Position.toJson (position : Position) : Json :=
  .obj [("line", .nat position.line), ("character", .nat position.character)]

def Position.ofJson? (json : Json) : Option Position := do
  let json ← Decode.record? ["line", "character"] json
  let line ← Decode.member json "line" Decode.nat32?
  let character ← Decode.member json "character" Decode.nat32?
  return ⟨line, character⟩

def Range.toJson (range : Range) : Json :=
  .obj [("start", range.start.toJson), ("end", range.stop.toJson)]

def Range.ofJson? (json : Json) : Option Range := do
  let json ← Decode.record? ["start", "end"] json
  let start ← Decode.member json "start" Position.ofJson?
  let stop ← Decode.member json "end" Position.ofJson?
  return ⟨start, stop⟩

end ThemeSense
