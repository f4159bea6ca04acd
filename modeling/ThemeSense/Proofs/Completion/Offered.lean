import ThemeSense.Proofs.Completion.Ranks
import ThemeSense.Proofs.Theme.Agreement

namespace ThemeSense

/-- Two lists that are merged into one, each in its own order. -/
inductive Interleaved {α : Type} : List α → List α → List α → Prop where
  | nil : Interleaved [] [] []
  | left {first second whole : List α} (x : α) (rest : Interleaved first second whole) :
      Interleaved (x :: first) second (x :: whole)
  | right {first second whole : List α} (x : α) (rest : Interleaved first second whole) :
      Interleaved first (x :: second) (x :: whole)

namespace Interleaved

variable {α : Type} {first second whole : List α}

theorem append_right (more : List α) (rest : Interleaved first second whole) :
    Interleaved first (more ++ second) (more ++ whole) := by
  induction more with
  | nil => exact rest
  | cons x more ih => exact .right x ih

theorem perm (merged : Interleaved first second whole) : (first ++ second).Perm whole := by
  induction merged with
  | nil => exact .nil
  | left x _ ih => exact ih.cons x
  | right x _ ih => exact List.perm_middle.trans (ih.cons x)

end Interleaved

namespace ColorTable

/-- The colors that a table has: strings beside groups, and strings in them. Neither a group nor what lies deeper
than its members is one. -/
inductive IsColor (table : ColorTable) : NamedValue → Prop where
  | flat {name value : String} (row : (name, ColorEntry.value value) ∈ table.rows) : IsColor table ⟨name, value⟩
  | nested {group name value : String} {members : Table GroupMember}
      (row : (group, ColorEntry.group members) ∈ table.rows) (inside : (name, GroupMember.value value) ∈ members) :
      IsColor table ⟨group ++ "." ++ name, value⟩

theorem interleaved_entries (table : ColorTable) : Interleaved table.flat table.nested table.entries := by
  obtain ⟨rows⟩ := table
  simp only [flat, nested, entries]
  induction rows with
  | nil => exact .nil
  | cons row rows ih =>
    obtain ⟨name, entry⟩ := row
    cases entry with
    | value color => exact ih.left ⟨name, color⟩
    | group members => exact ih.append_right (groupColors name members)

theorem mem_entries_iff {table : ColorTable} {color : NamedValue} :
    color ∈ table.entries ↔ table.IsColor color := by
  constructor
  · intro member
    obtain ⟨name, value⟩ := color
    rcases mem_entries member with row | ⟨group, members, inner, row, inside, named⟩
    · exact .flat row
    · cases named
      exact .nested row inside
  · rintro (row | ⟨row, inside⟩)
    · exact mem_entries_of_value row
    · exact mem_entries_of_member row inside

end ColorTable

/-- The color that a suggestion offers: its label, and the color as it was written. -/
def Suggestion.color? (suggestion : Suggestion) : Option NamedValue :=
  suggestion.swatch.map fun swatch => ⟨suggestion.label, swatch.written⟩

namespace Theme

theorem offered_eq (theme : Theme) : (theme.suggestions .colorValue).1.map Suggestion.color? =
    ((theme.colorTable?.map fun table => table.flat ++ table.nested).getD []).map some :=
  Suggestion.map_colors Suggestion.color? (fun _ _ => rfl) theme.colorTable?

theorem offered_perm {theme other : Theme} (same : theme.colorTable? = other.colorTable?) :
    ((theme.suggestions .colorValue).1.map Suggestion.color?).Perm (other.allColors.1.map some) := by
  have pushed : other.allColors.1 = (other.colorTable?.map ColorTable.entries).getD [] := rfl
  rw [offered_eq, pushed, ← same]
  cases theme.colorTable? with
  | none => exact .nil
  | some table => exact table.interleaved_entries.perm.map some

theorem isColor_of_mem_allColors {theme : Theme} {color : NamedValue} (pushed : color ∈ theme.allColors.1) :
    ∃ table, theme.colorTable? = some table ∧ table.IsColor color := by
  change color ∈ (theme.colorTable?.map ColorTable.entries).getD [] at pushed
  cases found : theme.colorTable? with
  | none => simp [found] at pushed
  | some table =>
    rw [found] at pushed
    exact ⟨table, rfl, ColorTable.mem_entries_iff.mp pushed⟩

/-- The completions offer the colors that are pushed, those outside groups first and otherwise in the same order.
Whatever is offered, and whatever is pushed in answer to a query, is a color of the table. -/
theorem completions_offer_pushed_colors :
    (∀ table : ColorTable, (table.flat ++ table.nested).Perm table.entries ∧
      Interleaved table.flat table.nested table.entries) ∧
    (∀ theme : Theme, theme.Steady → ∀ before after : Nat,
      (((accessed^[before] theme).suggestions .colorValue).1.map Suggestion.color?).Perm
        ((accessed^[after] theme).allColors.1.map some)) ∧
    (∀ theme : Theme,
      (∀ suggestion ∈ (theme.suggestions .colorValue).1, ∃ table color, theme.colorTable? = some table ∧
        suggestion.color? = some color ∧ table.IsColor color) ∧
      ∀ query, ∀ color ∈ (theme.answer query).1, ∃ table, theme.colorTable? = some table ∧ table.IsColor color) := by
  refine ⟨fun table => ⟨table.interleaved_entries.perm, table.interleaved_entries⟩, ?_, fun theme => ⟨?_, ?_⟩⟩
  · intro theme steady before after
    exact offered_perm ((steady before).trans (steady after).symm)
  · intro suggestion offered
    have pushed := (offered_perm rfl).subset (List.mem_map_of_mem offered)
    obtain ⟨color, inside, same⟩ := List.mem_map.mp pushed
    obtain ⟨table, found, isColor⟩ := isColor_of_mem_allColors inside
    exact ⟨table, color, found, same.symm, isColor⟩
  · rintro query color pushed
    cases query with
    | all => exact isColor_of_mem_allColors pushed
    | one name => exact isColor_of_mem_allColors (mem_answer_all (value?_of_mem_answer_one pushed))

/-- Colors that are computed on every access: a group with a deeper object stands between two colors, and the
second of them has the dotted name of a member of the group. -/
theorem completions_offer_pushed_colors_of_function :
    let table : ColorTable := ⟨[("text", .value "#111"), ("body", .group [("link", .value "#222"),
      ("deep", .nested (.obj [("x", .str "#333")]))]), ("body.link", .value "#444")]⟩
    let theme : Theme := { empty with colors := some (.function (.ofResults fun _ => .ok table)) }
    theme.Steady ∧
      theme.allColors.1 = [⟨"text", "#111"⟩, ⟨"body.link", "#222"⟩, ⟨"body.link", "#444"⟩] ∧
      (((accessed^[2] theme).suggestions .colorValue).1.map Suggestion.color?).Perm (theme.allColors.1.map some) := by
  intro table theme
  have distinct : table.Distinct := ⟨by simp [table, Table.names], by simp [table, Table.names]⟩
  have steady : theme.Steady :=
    (ReadSource.function (.ok table) (fun found same => by cases same; exact distinct) 0 false).steady
  exact ⟨steady, rfl, completions_offer_pushed_colors.2.1 theme steady 2 0⟩

end Theme

end ThemeSense
