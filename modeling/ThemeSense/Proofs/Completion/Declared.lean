import ThemeSense.Proofs.Completion.Ranks
import ThemeSense.Proofs.Theme.Sections

namespace ThemeSense

/-- The entries that stand in a value. -/
def declared : Option Json → Table Json
  | some (.obj entries) => Table.standing entries
  | _ => []

namespace ThemePart

/-- A value that can stand under a name in this part. Spacing takes every value. -/
def Accepts (json : Json) : ThemePart → Prop
  | .colors => ∃ entry, ColorEntry.Converts json entry
  | .breakpoints => ∃ text, json.IsText text
  | .collections => ∃ text, json.IsText text
  | .spacing => True
  | .families => ∃ family, FontFamily.Converts json family
  | .sizes => ∃ size, FontSize.Converts json size

/-- The value of a part is left out, or is an object of which every standing entry is acceptable. -/
def WellShaped (value : Option Json) (part : ThemePart) : Prop :=
  ∀ json, value = some json → json = .null ∨
    ∃ entries, json = .obj entries ∧ ∀ entry ∈ Table.standing entries, part.Accepts entry.2

end ThemePart

theorem SpacingValue.exists_converts (json : Json) : ∃ value, Converts json value := by
  cases text : json.cssText? with
  | some found => exact ⟨_, .length text⟩
  | none => exact ⟨_, .nested fun found isText => by cases text.symm.trans isText⟩

theorem EachConverted.exists {α : Type} {Converts : Json → α → Prop} {entries : List (String × Json)}
    (accepted : ∀ entry ∈ Table.standing entries, ∃ value, Converts entry.2 value) :
    ∃ table, EachConverted Converts entries table := by
  unfold EachConverted
  generalize Table.standing entries = rows at accepted
  induction rows with
  | nil => exact ⟨[], .nil⟩
  | cons row rows ih =>
    obtain ⟨here, later⟩ := List.forall_mem_cons.mp accepted
    obtain ⟨value, converts⟩ := here
    obtain ⟨table, each⟩ := ih later
    exact ⟨(row.1, value) :: table, .cons ⟨rfl, converts⟩ each⟩

/-- A well-shaped value is converted row by row. -/
theorem PartOutcome.rows {α β : Type} {Converts : Json → α → Prop} {whole : Table α → β} {default : β}
    {value : Option Json} {result : β} (outcome : PartOutcome Converts whole default value result)
    (shaped : ∀ json, value = some json → json = .null ∨
      ∃ entries, json = .obj entries ∧ ∀ entry ∈ Table.standing entries, ∃ value, Converts entry.2 value) :
    (∃ table, result = whole table ∧
      List.Forall₂ (fun row converted => row.1 = converted.1 ∧ Converts row.2 converted.2) (declared value) table) ∨
    result = default ∧ declared value = [] := by
  cases outcome with
  | converted isObject each =>
    subst isObject
    exact .inl ⟨_, rfl, each⟩
  | defaulted none =>
    refine .inr ⟨rfl, ?_⟩
    cases value with
    | none => rfl
    | some json =>
      rcases shaped json rfl with rfl | ⟨entries, rfl, accepted⟩
      · rfl
      · obtain ⟨table, each⟩ := EachConverted.exists accepted
        exact absurd each (none entries table rfl)

theorem PartOutcome.table_rows {α : Type} {Converts : Json → α → Prop} {value : Option Json} {table : Table α}
    (outcome : PartOutcome Converts id [] value table)
    (shaped : ∀ json, value = some json → json = .null ∨
      ∃ entries, json = .obj entries ∧ ∀ entry ∈ Table.standing entries, ∃ value, Converts entry.2 value) :
    List.Forall₂ (fun row converted => row.1 = converted.1 ∧ Converts row.2 converted.2) (declared value) table := by
  rcases outcome.rows shaped with ⟨_, rfl, rows⟩ | ⟨rfl, empty⟩
  · exact rows
  · rw [empty]
    exact .nil

/-- What is shown of converted rows is what can be said of the declared ones. -/
theorem map_of_rows {α γ : Type} {Converts : Json → α → Prop} {rows : Table Json} {table : Table α}
    (each : List.Forall₂ (fun row converted => row.1 = converted.1 ∧ Converts row.2 converted.2) rows table)
    {shown : String × α → γ} {said : String × Json → γ}
    (same : ∀ name json value, Converts json value → shown (name, value) = said (name, json)) :
    table.map shown = rows.map said := by
  induction each with
  | nil => rfl
  | @cons row converted rows table head _ ih =>
    obtain ⟨name, value⟩ := converted
    obtain ⟨rfl, converts⟩ := head
    rw [List.map_cons, List.map_cons, ih, same row.1 row.2 value converts]

/-- The label of a suggestion and the value that it shows. -/
def Suggestion.face (suggestion : Suggestion) : String × Option String :=
  (suggestion.label, some suggestion.detail)

/-- What a suggestion shows of a font size. -/
def FontSize.summary : FontSize → String
  | .fixed value => "Font size: " ++ value
  | .responsive sizes => "Responsive font size: " ++
      String.intercalate ", " (sizes.map fun row => row.1 ++ ": " ++ row.2.display)

/-- A color under its name and with its value. -/
def NamedValue.face (color : NamedValue) : String × Option String :=
  (color.name, some ("Color: " ++ color.value))

/-- The faces of those entries that are colors themselves, under names that may be made longer. -/
def colorFaces (longer : String → String) (rows : Table Json) : List (String × Option String) :=
  rows.filterMap fun row => row.2.text?.map fun color => (longer row.1, some ("Color: " ++ color))

section ColorRows

variable {rows : Table Json} {table : Table ColorEntry}

theorem face_flat (each : List.Forall₂ (fun row converted => row.1 = converted.1 ∧
    ColorEntry.Converts row.2 converted.2) rows table) :
    (ColorTable.mk table).flat.map NamedValue.face = colorFaces id rows := by
  simp only [ColorTable.flat, colorFaces, List.map_filterMap]
  induction each with
  | nil => rfl
  | @cons row converted rows table head _ ih =>
    obtain ⟨name, entry⟩ := converted
    obtain ⟨rfl, converts⟩ := head
    rw [List.filterMap_cons, List.filterMap_cons, ih]
    obtain ⟨name, json⟩ := row
    cases converts <;> rfl

theorem face_groupColors (group : String) (entries : List (String × Json)) :
    (groupColors group ((Table.standing entries).map fun entry =>
      (entry.1, GroupMember.ofJson entry.2.merged))).map NamedValue.face =
      colorFaces (group ++ "." ++ ·) (Table.standing entries) := by
  simp only [groupColors, colorFaces, List.filterMap_map, List.map_filterMap]
  refine List.filterMap_congr fun row _ => ?_
  obtain ⟨name, json⟩ := row
  cases json <;> rfl

theorem face_nested (each : List.Forall₂ (fun row converted => row.1 = converted.1 ∧
    ColorEntry.Converts row.2 converted.2) rows table) :
    (ColorTable.mk table).nested.map NamedValue.face =
      rows.flatMap fun group => colorFaces (group.1 ++ "." ++ ·) (declared (some group.2)) := by
  simp only [ColorTable.nested, List.map_flatMap]
  induction each with
  | nil => rfl
  | @cons row converted rows table head _ ih =>
    obtain ⟨name, entry⟩ := converted
    obtain ⟨rfl, converts⟩ := head
    rw [List.flatMap_cons, List.flatMap_cons, ih]
    obtain ⟨name, json⟩ := row
    cases converts with
    | value color => rfl
    | group entries => rw [face_groupColors, declared]

end ColorRows

namespace Theme

/-- The faces of the suggestions for a slot, in their order. -/
def faces (theme : Theme) (slot : Slot) : List (String × Option String) :=
  (theme.suggestions slot).1.map Suggestion.face

section Faces

variable (theme : Theme)

theorem faces_of_ranked {slot : Slot} {listed : List Suggestion}
    (same : (theme.suggestions slot).1 = Suggestion.ranked listed) : theme.faces slot = listed.map Suggestion.face := by
  rw [faces, same]
  exact Suggestion.map_ranked Suggestion.face (fun _ _ => rfl) listed

theorem faces_breakpoint : theme.faces .breakpoint =
    theme.collections.map (fun row => (row.1, some row.2)) ++
      theme.breakpoints.map (fun row => (row.1, some ("Breakpoint: " ++ row.2))) ++
      Suggestion.operators.map Suggestion.face := by
  rw [faces_of_ranked theme rfl, List.map_append, List.map_append, List.map_map, List.map_map]
  rfl

theorem faces_fontFamily : theme.faces .fontFamily =
    theme.families.map fun row => (row.1, some ("Font family: " ++ row.2.css)) := by
  rw [faces_of_ranked theme rfl, List.map_map]
  rfl

theorem faces_fontSize : theme.faces .fontSize = theme.sizes.map fun row => (row.1, some row.2.summary) := by
  rw [faces_of_ranked theme rfl, List.map_map]
  refine List.map_congr_left fun row _ => ?_
  obtain ⟨name, size⟩ := row
  cases size <;> rfl

theorem faces_spacingValue : theme.faces .spacingValue =
    theme.spacing.map fun row => (row.1, some ("Spacing: " ++ Suggestion.spacingText row.2)) := by
  rw [faces_of_ranked theme rfl, List.map_map]
  rfl

theorem faces_colorValue : theme.faces .colorValue =
    ((theme.colorTable?.map fun table => table.flat ++ table.nested).getD []).map NamedValue.face :=
  Suggestion.map_colors Suggestion.face (fun _ _ => rfl) theme.colorTable?

end Faces

variable {members : List (String × Json)}

theorem faces_colorValue_ofMembers (shaped : ThemePart.colors.WellShaped (ThemePart.colors.value? members)) :
    (ofMembers members).faces .colorValue =
      colorFaces id (declared (ThemePart.colors.value? members)) ++
        (declared (ThemePart.colors.value? members)).flatMap fun group =>
          colorFaces (group.1 ++ "." ++ ·) (declared (some group.2)) := by
  rw [faces_colorValue, colorTable?_eq]
  rcases (outcome members .colors).rows shaped with ⟨table, source, each⟩ | ⟨none, empty⟩
  · rw [source, ← face_flat each, ← face_nested each, ← List.map_append]
    rfl
  · rw [none, empty]
    rfl

/-- Whatever is declared more than once, each name is suggested once, in the order of the first
declarations and with the value of the last one. Suggestions are ranked in the order in which they are
listed, and an editor that sorts them by their texts keeps this order. -/
theorem suggestions_in_order_of_declaration (members : List (String × Json))
    (shaped : ∀ part : ThemePart, part.WellShaped (part.value? members)) :
    let rows (part : ThemePart) := declared (part.value? members)
    ((ofMembers members).faces .breakpoint =
      (rows .collections).map (fun row => (row.1, row.2.cssText?)) ++
      (rows .breakpoints).map (fun row => (row.1, row.2.cssText?.map ("Breakpoint: " ++ ·))) ++
      [(">=", some "Greater than or equal to breakpoint"), ("<=", some "Less than or equal to breakpoint"),
        (">", some "Greater than breakpoint"), ("<", some "Less than breakpoint")]) ∧
    ((ofMembers members).faces .fontFamily = (rows .families).map fun row =>
      (row.1, (FontFamily.ofJson? row.2.merged).map fun family => "Font family: " ++ family.css)) ∧
    ((ofMembers members).faces .fontSize = (rows .sizes).map fun row =>
      (row.1, (FontSize.ofJson? row.2.merged).map FontSize.summary)) ∧
    ((ofMembers members).faces .spacingValue = (rows .spacing).map fun row =>
      (row.1, some ("Spacing: " ++ row.2.cssText?.getD "[Object]"))) ∧
    ((ofMembers members).faces .colorValue = colorFaces id (rows .colors) ++
      (rows .colors).flatMap fun group => colorFaces (group.1 ++ "." ++ ·) (declared (some group.2))) ∧
    ∀ (theme : Theme) (slot : Slot),
      (∀ (index : Nat) (suggestion : Suggestion), (theme.suggestions slot).1[index]? = some suggestion →
        suggestion.rank = index) ∧
      ((theme.suggestions slot).1.length ≤ 100000 →
        (theme.suggestions slot).1.Pairwise fun earlier later => ∃ first second,
          (CompletionItem.ofSuggestion earlier).sortText = some first ∧
          (CompletionItem.ofSuggestion later).sortText = some second ∧ first < second) := by
  intro rows
  refine ⟨?_, ?_, ?_, ?_, faces_colorValue_ofMembers (shaped .colors), ?_⟩
  · have collections : (ofMembers members).collections.map (fun row => (row.1, some row.2)) =
        (rows .collections).map fun row => (row.1, row.2.cssText?) := by
      have each := (outcome members .collections).table_rows (shaped .collections)
      refine map_of_rows each fun name json text isText => ?_
      exact congrArg (Prod.mk name) isText.symm
    have breakpoints : (ofMembers members).breakpoints.map (fun row => (row.1, some ("Breakpoint: " ++ row.2))) =
        (rows .breakpoints).map fun row => (row.1, row.2.cssText?.map ("Breakpoint: " ++ ·)) := by
      have each := (outcome members .breakpoints).table_rows (shaped .breakpoints)
      refine map_of_rows each fun name json text isText => ?_
      exact congrArg (fun text => (name, text.map ("Breakpoint: " ++ ·))) isText.symm
    rw [faces_breakpoint, collections, breakpoints]
    rfl
  · rw [faces_fontFamily]
    refine map_of_rows ((outcome members .families).table_rows (shaped .families)) fun name json family converts => ?_
    dsimp only
    rw [(FontFamily.ofJson?_merged_iff json family).mpr converts]
    rfl
  · rw [faces_fontSize]
    refine map_of_rows ((outcome members .sizes).table_rows (shaped .sizes)) fun name json size converts => ?_
    dsimp only
    rw [(FontSize.ofJson?_merged_iff json size).mpr converts]
    rfl
  · rw [faces_spacingValue]
    have each := (outcome members .spacing).table_rows (by
      intro json found
      rcases shaped .spacing json found with null | ⟨entries, isObject, _⟩
      · exact .inl null
      · exact .inr ⟨entries, isObject, fun entry _ => SpacingValue.exists_converts entry.2⟩)
    refine map_of_rows each fun name json value converts => ?_
    cases converts with
    | length isText => rw [isText]; rfl
    | nested noText =>
      have none : json.cssText? = none := Option.eq_none_iff_forall_ne_some.mpr noText
      rw [none]
      rfl
  · intro theme slot
    obtain ⟨listed, same⟩ := Suggestion.exists_ranked theme slot
    have length : (Suggestion.ranked listed).length = listed.length := by simp [Suggestion.ranked]
    rw [same, length]
    exact ⟨fun index suggestion found => Suggestion.rank_of_getElem? found, Suggestion.sorted_ranked⟩

/-- A breakpoint declared again, a color that becomes a group, and a group with a repeated member. -/
theorem suggestions_in_order_of_declaration_over_repeats :
    let group : Json := .obj [("text", .str "#333"), ("link", .null), ("text", .str "#444")]
    let members : List (String × Json) :=
      [("breakpoints", .obj [("mobile", .null), ("desktop", .bool true), ("mobile", .str "480px")]),
        ("colors", .obj [("body", .str "#111"), ("brand", .str "#222"), ("body", group)])]
    (∀ part : ThemePart, part.WellShaped (part.value? members)) ∧
      (ofMembers members).faces .breakpoint =
        [("mobile", some "Breakpoint: 480px"), ("desktop", some "Breakpoint: true"),
          (">=", some "Greater than or equal to breakpoint"), ("<=", some "Less than or equal to breakpoint"),
          (">", some "Greater than breakpoint"), ("<", some "Less than breakpoint")] ∧
      (ofMembers members).faces .colorValue = [("brand", some "Color: #222"), ("body.text", some "Color: #444")] := by
  intro group members
  have shaped : ∀ part : ThemePart, part.WellShaped (part.value? members) := by
    intro part json found
    cases part with
    | breakpoints =>
      cases found
      refine .inr ⟨_, rfl, ?_⟩
      simp [Table.standing, Table.names, List.eraseDups_cons, ThemePart.Accepts, Json.IsText, Json.cssText?]
    | colors =>
      cases found
      refine .inr ⟨_, rfl, ?_⟩
      have rows : Table.standing [("body", .str "#111"), ("brand", .str "#222"), ("body", group)] =
          [("body", group), ("brand", .str "#222")] := by
        simp [Table.standing, Table.names, List.eraseDups_cons]
      rw [rows]
      exact List.forall_mem_cons.mpr ⟨⟨_, .group _⟩, List.forall_mem_singleton.mpr ⟨_, .value _⟩⟩
    | collections | spacing | families | sizes => cases found
  obtain ⟨breakpoint, _, _, _, color, _⟩ := suggestions_in_order_of_declaration members shaped
  exact ⟨shaped, breakpoint.trans (by decide +kernel), color.trans (by decide +kernel)⟩

end Theme

end ThemeSense
