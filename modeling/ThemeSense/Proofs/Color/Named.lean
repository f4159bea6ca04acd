import Mathlib.Data.List.Infix
import ThemeSense.Color.Named

namespace ThemeSense

theorem Text.holds_iff {piece cs : List Char} : holds piece cs = true ↔ piece <:+: cs := by
  induction cs with
  | nil => simp [holds]
  | cons c cs ih => rw [holds, Bool.or_eq_true, ih, List.isPrefixOf_iff_prefix, List.infix_cons_iff]

/-- What is found stands in the table under the name. -/
theorem mem_of_searchBetween {table : Array (String × String)} {name value : String} {low high : Nat}
    (found : searchBetween table name low high = some value) : (name, value) ∈ table := by
  fun_induction searchBetween table name low high with
  | case1 low high more middle outside => cases found
  | case2 low high more middle value' row =>
    cases found
    exact Array.mem_of_getElem? row
  | case3 low high more middle key other row differs less ih => exact ih found
  | case4 low high more middle key other row differs less ih => exact ih found
  | case5 low high none => cases found

theorem mem_namedColors {name value : String} (found : namedColor? name = some value) :
    (lowerCase name, value) ∈ namedColors.toList :=
  Array.mem_toList_iff.mpr (mem_of_searchBetween found)

/-- Every name in the table is a word of letters that looks like no other notation, and no value in it has a shorter
one. -/
theorem namedColors_plain : ∀ row ∈ namedColors.toList, Text.holds "rgb".toList row.1.toList = false ∧
    Text.holds "hsl".toList row.1.toList = false ∧ row.1.toList ≠ [] ∧ row.1.toList.all Char.isAlpha = true ∧
      hexColor row.2 = row.2 := by
  decide +kernel

theorem Text.holds_of_lower {piece cs : List Char} (lowered : lower piece = piece)
    (absent : holds piece (lower cs) = false) : holds piece cs = false := by
  rw [← Bool.not_eq_true, holds_iff] at absent ⊢
  intro holding
  have inLower := holding.map Char.toLower
  rw [← lower, ← lower, lowered] at inLower
  exact absent inLower

theorem isAlpha_of_toLower {c : Char} (letter : c.toLower.isAlpha = true) : c.isAlpha = true := by
  have cases : c.isAlpha = (c.isUpper || c.isLower) := rfl
  by_cases upper : c.isUpper = true
  · rw [cases, upper, Bool.true_or]
  · have same : c.toLower = c := dif_neg fun range => upper (decide_eq_true range)
    rwa [same] at letter

theorem letters_of_namedColor? {name value : String} (found : namedColor? name = some value) :
    name.toList ≠ [] ∧ ∀ c ∈ name.toList, c.isAlpha = true := by
  obtain ⟨_, _, nonempty, letters, _⟩ := namedColors_plain _ (mem_namedColors found)
  simp only [lowerCase, String.toList_ofList, Text.lower] at nonempty letters
  refine ⟨fun empty => nonempty (List.map_eq_nil_iff.mpr empty), fun c member => ?_⟩
  exact isAlpha_of_toLower (List.all_eq_true.mp letters _ (List.mem_map_of_mem member))

theorem hexColor_of_namedColor? {name value : String} (found : namedColor? name = some value) :
    hexColor name = value ∧ hexColor value = value := by
  obtain ⟨noRgb, noHsl, _, _, same⟩ := namedColors_plain _ (mem_namedColors found)
  simp only [lowerCase, String.toList_ofList] at noRgb noHsl
  have notRgb := Text.holds_of_lower rfl noRgb
  have notHsl := Text.holds_of_lower rfl noHsl
  have notHash : name.toList.head? ≠ some '#' := by
    intro hash
    have letter := (letters_of_namedColor? found).2 '#' (List.mem_of_head? hash)
    cases letter
  refine ⟨?_, same⟩
  rw [hexColor, notRgb, notHsl, decide_eq_false notHash, found]
  rfl

theorem hexColor_of_unnamed {name : String} (unnamed : namedColor? name = none) : hexColor name = name := by
  rw [hexColor, unnamed]
  split <;> rfl

/-- The colors that are known without the table have the same values there. -/
theorem namedColor?_of_builtinColor? {name value : String} (found : builtinColor? name = some value) :
    namedColor? name = some value := by
  have rows : ∀ row ∈ builtinColors, searchBetween namedColors row.1 0 namedColors.size = some row.2 :=
    by decide +kernel
  obtain ⟨before, after, same, _⟩ := List.lookup_eq_some_iff.mp found
  exact rows (lowerCase name, value) (by simp [same])

end ThemeSense
