import Mathlib.Data.String.Basic
import ThemeSense.Proofs.Color.Hexadecimal
import ThemeSense.Proofs.Color.Identifier
import ThemeSense.Proofs.Color.Named

namespace ThemeSense

section Search

variable {table : Array (String × String)} {name value : String}

/-- The rows of a table are in the order of their names, of which none stands twice. -/
def SortedByName (table : Array (String × String)) : Prop :=
  table.toList.Pairwise (·.1 < ·.1)

theorem SortedByName.name_lt (sorted : SortedByName table) {i j : Nat} {row other : String × String}
    (atI : table[i]? = some row) (atJ : table[j]? = some other) (before : i < j) : row.1 < other.1 := by
  obtain ⟨boundI, rfl⟩ := Array.getElem?_eq_some_iff.mp atI
  obtain ⟨boundJ, rfl⟩ := Array.getElem?_eq_some_iff.mp atJ
  exact List.pairwise_iff_getElem.mp sorted i j boundI boundJ before

/-- A search between two places finds every row that stands between them. -/
theorem searchBetween_of_row (sorted : SortedByName table) {low high place : Nat} (bounded : high ≤ table.size)
    (least : low ≤ place) (most : place < high) (row : table[place]? = some (name, value)) :
    searchBetween table name low high = some value := by
  fun_induction searchBetween table name low high with
  | case1 low high more middle outside =>
    have inside : middle < table.size := by omega
    rw [Array.getElem?_eq_getElem inside] at outside
    cases outside
  | case2 low high more middle value' atMiddle =>
    -- two rows of one name would be one before the other
    have same : middle = place := by
      rcases Nat.lt_trichotomy middle place with before | same | behind
      · exact absurd (sorted.name_lt atMiddle row before) (lt_irrefl _)
      · exact same
      · exact absurd (sorted.name_lt row atMiddle behind) (lt_irrefl _)
    rw [same, row] at atMiddle
    cases atMiddle
    rfl
  | case3 low high more middle key other atMiddle differs less ih =>
    have behind : middle < place := by
      rcases Nat.lt_trichotomy middle place with before | rfl | behind
      · exact before
      · rw [row] at atMiddle
        cases atMiddle
        exact absurd rfl differs
      · exact absurd (sorted.name_lt row atMiddle behind) (lt_asymm less)
    exact ih bounded behind most
  | case4 low high more middle key other atMiddle differs notLess ih =>
    have before : place < middle := by
      rcases Nat.lt_trichotomy place middle with before | rfl | behind
      · exact before
      · rw [row] at atMiddle
        cases atMiddle
        exact absurd rfl differs
      · exact absurd (sorted.name_lt atMiddle row behind) notLess
    exact ih (by omega) least before
  | case5 low high none => omega

theorem searchBetween_eq_some_iff (sorted : SortedByName table) :
    searchBetween table name 0 table.size = some value ↔ (name, value) ∈ table := by
  refine ⟨mem_of_searchBetween, fun member => ?_⟩
  obtain ⟨place, row⟩ := Array.mem_iff_getElem?.mp member
  have most : place < table.size := (Array.getElem?_eq_some_iff.mp row).1
  exact searchBetween_of_row sorted le_rfl (Nat.zero_le place) most row

end Search

theorem namedColors_sorted : SortedByName namedColors := by
  have inOrder : namedColors.toList.IsChain (·.1 < ·.1) := by decide +kernel
  have : IsTrans (String × String) (·.1 < ·.1) := ⟨fun _ _ _ => lt_trans⟩
  exact List.isChain_iff_pairwise.mp inOrder

/-- The names of colors in CSS with the values that its standard gives them, channel by channel. -/
def standardColors : List (String × Rgba) := [
  ("aliceblue", ⟨240, 248, 255, 255⟩), ("antiquewhite", ⟨250, 235, 215, 255⟩), ("aqua", ⟨0, 255, 255, 255⟩),
  ("aquamarine", ⟨127, 255, 212, 255⟩), ("azure", ⟨240, 255, 255, 255⟩), ("beige", ⟨245, 245, 220, 255⟩),
  ("bisque", ⟨255, 228, 196, 255⟩), ("black", ⟨0, 0, 0, 255⟩), ("blanchedalmond", ⟨255, 235, 205, 255⟩),
  ("blue", ⟨0, 0, 255, 255⟩), ("blueviolet", ⟨138, 43, 226, 255⟩), ("brown", ⟨165, 42, 42, 255⟩),
  ("burlywood", ⟨222, 184, 135, 255⟩), ("cadetblue", ⟨95, 158, 160, 255⟩), ("chartreuse", ⟨127, 255, 0, 255⟩),
  ("chocolate", ⟨210, 105, 30, 255⟩), ("coral", ⟨255, 127, 80, 255⟩), ("cornflowerblue", ⟨100, 149, 237, 255⟩),
  ("cornsilk", ⟨255, 248, 220, 255⟩), ("crimson", ⟨220, 20, 60, 255⟩), ("cyan", ⟨0, 255, 255, 255⟩),
  ("darkblue", ⟨0, 0, 139, 255⟩), ("darkcyan", ⟨0, 139, 139, 255⟩), ("darkgoldenrod", ⟨184, 134, 11, 255⟩),
  ("darkgray", ⟨169, 169, 169, 255⟩), ("darkgreen", ⟨0, 100, 0, 255⟩), ("darkgrey", ⟨169, 169, 169, 255⟩),
  ("darkkhaki", ⟨189, 183, 107, 255⟩), ("darkmagenta", ⟨139, 0, 139, 255⟩), ("darkolivegreen", ⟨85, 107, 47, 255⟩),
  ("darkorange", ⟨255, 140, 0, 255⟩), ("darkorchid", ⟨153, 50, 204, 255⟩), ("darkred", ⟨139, 0, 0, 255⟩),
  ("darksalmon", ⟨233, 150, 122, 255⟩), ("darkseagreen", ⟨143, 188, 143, 255⟩),
  ("darkslateblue", ⟨72, 61, 139, 255⟩), ("darkslategray", ⟨47, 79, 79, 255⟩), ("darkslategrey", ⟨47, 79, 79, 255⟩),
  ("darkturquoise", ⟨0, 206, 209, 255⟩), ("darkviolet", ⟨148, 0, 211, 255⟩), ("deeppink", ⟨255, 20, 147, 255⟩),
  ("deepskyblue", ⟨0, 191, 255, 255⟩), ("dimgray", ⟨105, 105, 105, 255⟩), ("dimgrey", ⟨105, 105, 105, 255⟩),
  ("dodgerblue", ⟨30, 144, 255, 255⟩), ("firebrick", ⟨178, 34, 34, 255⟩), ("floralwhite", ⟨255, 250, 240, 255⟩),
  ("forestgreen", ⟨34, 139, 34, 255⟩), ("fuchsia", ⟨255, 0, 255, 255⟩), ("gainsboro", ⟨220, 220, 220, 255⟩),
  ("ghostwhite", ⟨248, 248, 255, 255⟩), ("gold", ⟨255, 215, 0, 255⟩), ("goldenrod", ⟨218, 165, 32, 255⟩),
  ("gray", ⟨128, 128, 128, 255⟩), ("green", ⟨0, 128, 0, 255⟩), ("greenyellow", ⟨173, 255, 47, 255⟩),
  ("grey", ⟨128, 128, 128, 255⟩), ("honeydew", ⟨240, 255, 240, 255⟩), ("hotpink", ⟨255, 105, 180, 255⟩),
  ("indianred", ⟨205, 92, 92, 255⟩), ("indigo", ⟨75, 0, 130, 255⟩), ("ivory", ⟨255, 255, 240, 255⟩),
  ("khaki", ⟨240, 230, 140, 255⟩), ("lavender", ⟨230, 230, 250, 255⟩), ("lavenderblush", ⟨255, 240, 245, 255⟩),
  ("lawngreen", ⟨124, 252, 0, 255⟩), ("lemonchiffon", ⟨255, 250, 205, 255⟩), ("lightblue", ⟨173, 216, 230, 255⟩),
  ("lightcoral", ⟨240, 128, 128, 255⟩), ("lightcyan", ⟨224, 255, 255, 255⟩),
  ("lightgoldenrodyellow", ⟨250, 250, 210, 255⟩), ("lightgray", ⟨211, 211, 211, 255⟩),
  ("lightgreen", ⟨144, 238, 144, 255⟩), ("lightgrey", ⟨211, 211, 211, 255⟩), ("lightpink", ⟨255, 182, 193, 255⟩),
  ("lightsalmon", ⟨255, 160, 122, 255⟩), ("lightseagreen", ⟨32, 178, 170, 255⟩),
  ("lightskyblue", ⟨135, 206, 250, 255⟩), ("lightslategray", ⟨119, 136, 153, 255⟩),
  ("lightslategrey", ⟨119, 136, 153, 255⟩), ("lightsteelblue", ⟨176, 196, 222, 255⟩),
  ("lightyellow", ⟨255, 255, 224, 255⟩), ("lime", ⟨0, 255, 0, 255⟩), ("limegreen", ⟨50, 205, 50, 255⟩),
  ("linen", ⟨250, 240, 230, 255⟩), ("magenta", ⟨255, 0, 255, 255⟩), ("maroon", ⟨128, 0, 0, 255⟩),
  ("mediumaquamarine", ⟨102, 205, 170, 255⟩), ("mediumblue", ⟨0, 0, 205, 255⟩),
  ("mediumorchid", ⟨186, 85, 211, 255⟩), ("mediumpurple", ⟨147, 112, 219, 255⟩),
  ("mediumseagreen", ⟨60, 179, 113, 255⟩), ("mediumslateblue", ⟨123, 104, 238, 255⟩),
  ("mediumspringgreen", ⟨0, 250, 154, 255⟩), ("mediumturquoise", ⟨72, 209, 204, 255⟩),
  ("mediumvioletred", ⟨199, 21, 133, 255⟩), ("midnightblue", ⟨25, 25, 112, 255⟩),
  ("mintcream", ⟨245, 255, 250, 255⟩), ("mistyrose", ⟨255, 228, 225, 255⟩), ("moccasin", ⟨255, 228, 181, 255⟩),
  ("navajowhite", ⟨255, 222, 173, 255⟩), ("navy", ⟨0, 0, 128, 255⟩), ("oldlace", ⟨253, 245, 230, 255⟩),
  ("olive", ⟨128, 128, 0, 255⟩), ("olivedrab", ⟨107, 142, 35, 255⟩), ("orange", ⟨255, 165, 0, 255⟩),
  ("orangered", ⟨255, 69, 0, 255⟩), ("orchid", ⟨218, 112, 214, 255⟩), ("palegoldenrod", ⟨238, 232, 170, 255⟩),
  ("palegreen", ⟨152, 251, 152, 255⟩), ("paleturquoise", ⟨175, 238, 238, 255⟩),
  ("palevioletred", ⟨219, 112, 147, 255⟩), ("papayawhip", ⟨255, 239, 213, 255⟩), ("peachpuff", ⟨255, 218, 185, 255⟩),
  ("peru", ⟨205, 133, 63, 255⟩), ("pink", ⟨255, 192, 203, 255⟩), ("plum", ⟨221, 160, 221, 255⟩),
  ("powderblue", ⟨176, 224, 230, 255⟩), ("purple", ⟨128, 0, 128, 255⟩), ("rebeccapurple", ⟨102, 51, 153, 255⟩),
  ("red", ⟨255, 0, 0, 255⟩), ("rosybrown", ⟨188, 143, 143, 255⟩), ("royalblue", ⟨65, 105, 225, 255⟩),
  ("saddlebrown", ⟨139, 69, 19, 255⟩), ("salmon", ⟨250, 128, 114, 255⟩), ("sandybrown", ⟨244, 164, 96, 255⟩),
  ("seagreen", ⟨46, 139, 87, 255⟩), ("seashell", ⟨255, 245, 238, 255⟩), ("sienna", ⟨160, 82, 45, 255⟩),
  ("silver", ⟨192, 192, 192, 255⟩), ("skyblue", ⟨135, 206, 235, 255⟩), ("slateblue", ⟨106, 90, 205, 255⟩),
  ("slategray", ⟨112, 128, 144, 255⟩), ("slategrey", ⟨112, 128, 144, 255⟩), ("snow", ⟨255, 250, 250, 255⟩),
  ("springgreen", ⟨0, 255, 127, 255⟩), ("steelblue", ⟨70, 130, 180, 255⟩), ("tan", ⟨210, 180, 140, 255⟩),
  ("teal", ⟨0, 128, 128, 255⟩), ("thistle", ⟨216, 191, 216, 255⟩), ("tomato", ⟨255, 99, 71, 255⟩),
  ("transparent", ⟨0, 0, 0, 0⟩), ("turquoise", ⟨64, 224, 208, 255⟩), ("violet", ⟨238, 130, 238, 255⟩),
  ("wheat", ⟨245, 222, 179, 255⟩), ("white", ⟨255, 255, 255, 255⟩), ("whitesmoke", ⟨245, 245, 245, 255⟩),
  ("yellow", ⟨255, 255, 0, 255⟩), ("yellowgreen", ⟨154, 205, 50, 255⟩)]

/-- A reader of CSS knows each name, in any mix of cases, with its standard value. -/
def ReadsNames (css : List Char → Option Rgba) : Prop :=
  ∀ row ∈ standardColors, ∀ cs, Text.lower cs = row.1.toList → css cs = some row.2

namespace Rgba

variable {css : List Char → Option Rgba} {color : Rgba}

/-- What is read with the help of one reader is read with every reader that knows as much. -/
theorem parseBy_mono {less : List Char → Option Rgba} (knows : ∀ {cs color}, less cs = some color → css cs = some color)
    {text : String} (read : parseBy less text = .ok color) : parseBy css text = .ok color := by
  unfold parseBy at read ⊢
  split at read
  · cases read
  · exact read
  · split at read
    · next found =>
      rw [knows found]
      exact read
    · cases read

theorem parseBy_letters {text : String} (nonempty : text.toList ≠ []) (letters : ∀ c ∈ text.toList, c.isAlpha = true)
    (read : css text.toList = some color) : parseBy css text = .ok color := by
  have solid : ∀ c ∈ text.toList, isBlank c = false := by
    intro c member
    have cases : c.isAlphanum = (c.isAlpha || c.isDigit) := rfl
    exact isBlank_of_isAlphanum (by rw [cases, letters c member, Bool.true_or])
  rw [parseBy, Text.trim_of_solid solid]
  split
  · next empty => exact absurd empty nonempty
  · next hash =>
    have letter := letters '#' (by rw [hash]; exact List.mem_cons_self)
    cases letter
  · rw [read]

end Rgba

/-- Reads no name but that of the color for which there are no digits in the table. -/
def readClear (cs : List Char) : Option Rgba :=
  if cs = "transparent".toList then some ⟨0, 0, 0, 0⟩ else none

/-- The values in the table are those of the standard, both as values of names and as texts by themselves. -/
theorem standardColors_eq : standardColors.map (fun row => (row.1, some row.2, some row.2)) =
    namedColors.toList.map fun row => (row.1, Css.valueRgba? row.2, (Rgba.parseBy readClear row.2).toOption) := by
  decide +kernel

/-- A name of the table with its value has a row in the standard. -/
structure Standard (name value : String) (color : Rgba) : Prop where
  row : (name, color) ∈ standardColors
  asValue : Css.valueRgba? value = some color
  asText : Rgba.parseBy readClear value = .ok color

theorem standard_of_mem {name value : String} (member : (name, value) ∈ namedColors) :
    ∃ color, Standard name value color := by
  have row : (name, Css.valueRgba? value, (Rgba.parseBy readClear value).toOption) ∈
      namedColors.toList.map fun row => (row.1, Css.valueRgba? row.2, (Rgba.parseBy readClear row.2).toOption) :=
    List.mem_map.mpr ⟨_, Array.mem_toList_iff.mpr member, rfl⟩
  rw [← standardColors_eq] at row
  obtain ⟨⟨name', color⟩, inStandard, same⟩ := List.mem_map.mp row
  simp only [Prod.mk.injEq] at same
  obtain ⟨rfl, asValue, asText⟩ := same
  refine ⟨color, inStandard, asValue.symm, ?_⟩
  cases read : Rgba.parseBy readClear value with
  | error e =>
    rw [read] at asText
    cases asText
  | ok other =>
    rw [read] at asText
    cases asText
    rfl

theorem mem_of_standard {name : String} {color : Rgba} (row : (name, color) ∈ standardColors) :
    ∃ value, (name, value) ∈ namedColors ∧ Css.valueRgba? value = some color := by
  have mapped : (name, some color, some color) ∈ standardColors.map fun row => (row.1, some row.2, some row.2) :=
    List.mem_map.mpr ⟨_, row, rfl⟩
  rw [standardColors_eq] at mapped
  obtain ⟨⟨name', value⟩, member, same⟩ := List.mem_map.mp mapped
  simp only [Prod.mk.injEq] at same
  obtain ⟨rfl, asValue, _⟩ := same
  exact ⟨value, Array.mem_toList_iff.mp member, asValue⟩

theorem namedColor?_eq_some_iff {name value : String} :
    namedColor? name = some value ↔ (lowerCase name, value) ∈ namedColors :=
  searchBetween_eq_some_iff namedColors_sorted

theorem ReadsNames.readClear {css : List Char → Option Rgba} (names : ReadsNames css) {cs : List Char} {color : Rgba}
    (clear : readClear cs = some color) : css cs = some color := by
  unfold ThemeSense.readClear at clear
  split at clear
  · next same =>
    cases clear
    exact names ("transparent", ⟨0, 0, 0, 0⟩) (by decide) cs (by rw [same]; rfl)
  · cases clear

/-- The reader of CSS knows all names. -/
theorem Css.readsNames_parse? : ReadsNames parse? := by
  rintro ⟨name, color⟩ row cs lowered
  have same : lowerCase (String.ofList cs) = name := by
    rw [lowerCase, String.toList_ofList, lowered, String.ofList_toList]
  obtain ⟨value, member, asValue⟩ := mem_of_standard row
  rw [← same] at member
  have found := namedColor?_eq_some_iff.mpr member
  obtain ⟨nonempty, letters⟩ := letters_of_namedColor? found
  rw [String.toList_ofList] at nonempty letters
  have value : namedRgba? (String.ofList cs) = some color := by rw [namedRgba?, found, Option.bind_some, asValue]
  rw [parse?, tokens?_letters nonempty letters]
  exact value

/-- A color keeps its value when its name is replaced. -/
theorem Rgba.parseBy_hexColor {css : List Char → Option Rgba} (names : ReadsNames css) (value : String) :
    parseBy css (hexColor value) = parseBy css value := by
  cases found : namedColor? value with
  | none => rw [hexColor_of_unnamed found]
  | some hex =>
    obtain ⟨color, standard⟩ := standard_of_mem (namedColor?_eq_some_iff.mp found)
    obtain ⟨nonempty, letters⟩ := letters_of_namedColor? found
    have lowered : Text.lower value.toList = (lowerCase value).toList := by rw [lowerCase, String.toList_ofList]
    have byName := parseBy_letters nonempty letters (names _ standard.row _ lowered)
    rw [(hexColor_of_namedColor? found).1, byName, parseBy_mono names.readClear standard.asText]

/-- Names are looked up faithfully. The search finds what stands in the table and nothing else, the colors that are
known without it have the same values there, and a color written in digits instead of its name stays the same color,
for whatever reader of CSS that knows the names with their standard values. -/
theorem names_keep_colors :
    (∀ name value, namedColor? name = some value ↔ (lowerCase name, value) ∈ namedColors) ∧
      (∀ name value, builtinColor? name = some value → namedColor? name = some value) ∧
      (∀ value, hexColor (hexColor value) = hexColor value) ∧
      (∀ css, ReadsNames css → ∀ value, Rgba.parseBy css (hexColor value) = Rgba.parseBy css value) ∧
      ∀ value, Rgba.parse (hexColor value) = Rgba.parse value := by
  refine ⟨fun name value => namedColor?_eq_some_iff, fun name value => namedColor?_of_builtinColor?, fun value => ?_,
    fun css names => Rgba.parseBy_hexColor names, ?_⟩
  · cases found : namedColor? value with
    | none => rw [hexColor_of_unnamed found, hexColor_of_unnamed found]
    | some hex =>
      obtain ⟨fromName, again⟩ := hexColor_of_namedColor? found
      rw [fromName, again]
  · rw [Rgba.parse_eq]
    exact Rgba.parseBy_hexColor Css.readsNames_parse?

theorem names_keep_colors_of_mixed_case :
    builtinColor? "Transparent" = some "transparent" ∧ namedColor? "Transparent" = some "transparent" ∧
      hexColor "RebeccaPurple" = "#663399" ∧ ReadsNames Css.parse? ∧
      Rgba.parseBy Css.parse? (hexColor "RebeccaPurple") = Rgba.parseBy Css.parse? "RebeccaPurple" := by
  obtain ⟨_, inTable, _, keeps, _⟩ := names_keep_colors
  have known : builtinColor? "Transparent" = some "transparent" := by decide +kernel
  exact ⟨known, inTable _ _ known, by decide +kernel, Css.readsNames_parse?, keeps _ Css.readsNames_parse? _⟩

end ThemeSense
