import ThemeSense.Completion.Item
import ThemeSense.Completion.Provider
import ThemeSense.Proofs.Table
import ThemeSense.Proofs.Text.Runs

namespace ThemeSense.CompletionItem

/-- The keys under which the data of an item describe a swatch. -/
def swatchKeys : List String :=
  ["color", "type", "colorValue", "originalColor"]

/-- An item names a color: in its data under one of two keys, or in its detail. -/
inductive FindsColor (item : CompletionItem) : Prop where
  | data {members : List (String × Json)} {key color : String} (object : item.data = some (.obj members))
      (keys : key = "colorValue" ∨ key = "color") (text : Table.get? members key = some (.str color)) : FindsColor item
  | detail {color : String} (text : item.detail = some ("Color: " ++ color)) : FindsColor item

/-- The detail that an item has once its swatch is known. -/
def namedDetail (detail : Option String) (swatch : Swatch) : Option String :=
  if swatch.written ≠ swatch.shown ∧ swatch.written ≠ "transparent" ∧ swatch.shown ≠ "transparent" then
    some s!"Color: {swatch.written} ({swatch.shown})"
  else detail

/-- An item with all that an editor needs to show a swatch. -/
def withSwatch (item : CompletionItem) (swatch : Swatch) : CompletionItem :=
  { item with
    documentation := some (.bare swatch.shown)
    data := some (.obj (Table.insertAll item.dataMembers (swatchMembers swatch)))
    detail := namedDetail item.detail swatch }

theorem names_swatchMembers (swatch : Swatch) : Table.names (swatchMembers swatch) = swatchKeys := rfl

theorem swatchMembers_distinct (swatch : Swatch) : (Table.names (swatchMembers swatch)).Nodup := by
  rw [names_swatchMembers]
  decide

section Resolve

variable {item : CompletionItem} {swatch : Swatch}

theorem resolve_of_swatch? (kind : item.kind = some colorKind) (found : item.swatch? = some swatch) :
    item.resolve = item.withSwatch swatch := by
  rw [resolve, if_pos kind, found]
  rfl

theorem resolve_of_none (absent : item.kind ≠ some colorKind ∨ item.swatch? = none) : item.resolve = item := by
  rw [resolve]
  split
  · rename_i kind
    rcases absent with other | none
    · exact absurd kind other
    · rw [none]
  · rfl

/-- Only colors that are found are touched. -/
theorem resolve_cases (item : CompletionItem) :
    (item.kind ≠ some colorKind ∨ item.swatch? = none) ∧ item.resolve = item ∨
      ∃ swatch, item.kind = some colorKind ∧ item.swatch? = some swatch ∧ item.resolve = item.withSwatch swatch := by
  by_cases kind : item.kind = some colorKind
  · cases found : item.swatch? with
    | none => exact .inl ⟨.inr rfl, resolve_of_none (.inr found)⟩
    | some swatch => exact .inr ⟨swatch, kind, rfl, resolve_of_swatch? kind found⟩
  · exact .inl ⟨.inl kind, resolve_of_none (.inl kind)⟩

theorem get?_of_dataText? {members : Table Json} {key color : String} (found : dataText? members key = some color) :
    members.get? key = some (.str color) := by
  unfold dataText? at found
  split at found
  · rename_i text
    rw [text, Option.some.inj found]
  · cases found

theorem obj_of_dataText? {key color : String} (found : dataText? item.dataMembers key = some color) :
    ∃ members, item.data = some (.obj members) ∧ Table.get? members key = some (.str color) := by
  have text := get?_of_dataText? found
  unfold dataMembers at text
  split at text
  · rename_i members object
    exact ⟨members, object, text⟩
  · cases text

theorem eq_of_detailColor? {color : String} (found : item.detailColor? = some color) :
    item.detail = some ("Color: " ++ color) := by
  obtain ⟨rest, named, rfl⟩ := Option.map_eq_some_iff.mp found
  obtain ⟨detail, written, after⟩ := Option.bind_eq_some_iff.mp named
  have chars : detail.toList = "Color: ".toList ++ rest := Text.after?_eq_some.mp after
  have tail : (String.ofList rest).toList = rest := String.toList_ofList
  have same : detail = "Color: " ++ String.ofList rest := by
    rw [← String.toList_inj, chars, String.toList_append, tail]
  rw [written, same]

theorem findsColor_of_swatch? (found : item.swatch? = some swatch) : item.FindsColor := by
  simp only [swatch?] at found
  cases value : dataText? item.dataMembers "colorValue" with
  | some color =>
    obtain ⟨members, object, text⟩ := obj_of_dataText? value
    exact .data object (.inl rfl) text
  | none =>
    cases plain : dataText? item.dataMembers "color" with
    | some color =>
      obtain ⟨members, object, text⟩ := obj_of_dataText? plain
      exact .data object (.inr rfl) text
    | none =>
      rw [value, plain] at found
      obtain ⟨color, named, _⟩ := Option.map_eq_some_iff.mp found
      exact .detail (eq_of_detailColor? named)

theorem get?_swatchMembers (members : Table Json) (row : String × Json) (written : row ∈ swatchMembers swatch) :
    (members.insertAll (swatchMembers swatch)).get? row.1 = some row.2 :=
  Table.get?_insertAll_of_mem (swatchMembers_distinct swatch) members written

theorem dataText?_of_get? {members : Table Json} {key color : String} (text : members.get? key = some (.str color)) :
    dataText? members key = some color := by
  rw [dataText?, text]

/-- What was written is found again, before the detail is looked at. -/
theorem swatch?_of_members {members : Table Json} (data : item.dataMembers = members.insertAll (swatchMembers swatch)) :
    item.swatch? = some swatch := by
  have shown : dataText? item.dataMembers "colorValue" = some swatch.shown := by
    rw [data]
    exact dataText?_of_get? (get?_swatchMembers members ("colorValue", .str swatch.shown) (by simp [swatchMembers]))
  have written : dataText? item.dataMembers "originalColor" = some swatch.written := by
    rw [data]
    exact dataText?_of_get? (get?_swatchMembers members ("originalColor", .str swatch.written)
      (by simp [swatchMembers]))
  simp only [swatch?, shown, written]
  rfl

theorem namedDetail_namedDetail (detail : Option String) (swatch : Swatch) :
    namedDetail (namedDetail detail swatch) swatch = namedDetail detail swatch := by
  unfold namedDetail
  split <;> rfl

theorem withSwatch_withSwatch (item : CompletionItem) (swatch : Swatch) :
    (item.withSwatch swatch).withSwatch swatch = item.withSwatch swatch := by
  have members : Table.insertAll (item.withSwatch swatch).dataMembers (swatchMembers swatch) =
      (item.withSwatch swatch).dataMembers := Table.insertAll_of_get? (get?_swatchMembers item.dataMembers)
  have detail : namedDetail (item.withSwatch swatch).detail swatch = (item.withSwatch swatch).detail :=
    namedDetail_namedDetail item.detail swatch
  rw [withSwatch, members, detail]
  rfl

theorem resolve_resolve (item : CompletionItem) : item.resolve.resolve = item.resolve := by
  rcases item.resolve_cases with ⟨_, unchanged⟩ | ⟨swatch, kind, _, resolved⟩
  · rw [unchanged, unchanged]
  · -- The second time the color is found in the data, wherever it was the first time.
    have sameKind : (item.withSwatch swatch).kind = some colorKind := kind
    have again : (item.withSwatch swatch).swatch? = some swatch := swatch?_of_members rfl
    rw [resolved, resolve_of_swatch? sameKind again, withSwatch_withSwatch]

/-- Where nothing changes there is no color to show. -/
theorem resolve_of_not_findsColor (absent : ¬(item.kind = some colorKind ∧ item.FindsColor)) : item.resolve = item := by
  rcases item.resolve_cases with ⟨_, unchanged⟩ | ⟨swatch, kind, found, _⟩
  · exact unchanged
  · exact absurd ⟨kind, findsColor_of_swatch? found⟩ absent

/-- The data of an item keep what does not describe a swatch. -/
theorem resolve_data {members : List (String × Json)} (object : item.data = some (.obj members)) :
    ∃ resolved, item.resolve.data = some (.obj resolved) ∧
      (∀ (i : Nat) (row : String × Json), members[i]? = some row → row.1 ∉ swatchKeys → resolved[i]? = some row) ∧
      resolved.filter (·.1 ∉ swatchKeys) = members.filter (·.1 ∉ swatchKeys) := by
  rcases item.resolve_cases with ⟨_, unchanged⟩ | ⟨swatch, _, _, resolved⟩
  · rw [unchanged]
    exact ⟨members, object, fun i row atRow _ => atRow, rfl⟩
  · have all : item.dataMembers = members := by rw [dataMembers, object]
    refine ⟨Table.insertAll members (swatchMembers swatch), ?_, ?_, ?_⟩
    · rw [resolved, withSwatch, all]
    · intro i row atRow other
      exact Table.getElem?_insertAll atRow other
    · have dropped : ∀ name ∈ Table.names (swatchMembers swatch), decide (name ∉ swatchKeys) = false := by
        intro name member
        have known : name ∈ swatchKeys := member
        simpa using known
      exact Table.filter_insertAll dropped members

end Resolve

/-- A detail that shows both forms of a color is longer than one that shows one. -/
theorem ne_both_forms (color hex : String) : "Color: " ++ color ≠ s!"Color: {color} ({hex})" := by
  intro same
  have both : s!"Color: {color} ({hex})" = "Color: " ++ color ++ " (" ++ hex ++ ")" := rfl
  have lengths := congrArg String.length (same.trans both)
  have opening : " (".length = 2 := rfl
  simp only [String.length_append, opening] at lengths
  omega

/-- Resolving a suggestion of a color changes its detail at most. -/
theorem resolve_ofColor (color : NamedValue) (rank : Nat) :
    let made := ofSuggestion { Suggestion.ofColor color with rank := rank }
    made.resolve = { made with detail := namedDetail made.detail ⟨hexColor color.value, color.value⟩ } := by
  intro made
  have kind : made.kind = some colorKind := rfl
  have data : made.dataMembers = swatchMembers ⟨hexColor color.value, color.value⟩ := rfl
  have found : made.swatch? = some ⟨hexColor color.value, color.value⟩ := rfl
  have again : Table.insertAll made.dataMembers (swatchMembers ⟨hexColor color.value, color.value⟩) =
      swatchMembers ⟨hexColor color.value, color.value⟩ := by
    rw [data]
    exact Table.insertAll_of_get? fun row => Table.get?_of_mem (swatchMembers_distinct _)
  rw [resolve_of_swatch? kind found, withSwatch, again]
  rfl

/-- Resolving an item a second time changes nothing. The first time it changes nothing but documentation,
detail and data, and these only for a color that is found; the data keep all that does not describe a swatch. Of the
suggestion of a color only the detail changes, and only if the color has two forms to show. -/
theorem resolve_settles_and_keeps_rest (item : CompletionItem) :
    item.resolve.resolve = item.resolve ∧
      (∃ documentation detail data,
        item.resolve = { item with documentation := documentation, detail := detail, data := data }) ∧
      (¬(item.kind = some colorKind ∧ item.FindsColor) → item.resolve = item) ∧
      (∀ members, item.data = some (.obj members) → ∃ resolved, item.resolve.data = some (.obj resolved) ∧
        (∀ (i : Nat) (row : String × Json), members[i]? = some row → row.1 ∉ swatchKeys → resolved[i]? = some row) ∧
        resolved.filter (·.1 ∉ swatchKeys) = members.filter (·.1 ∉ swatchKeys)) ∧
      ∀ (label value : String) (rank : Nat),
        let made := ofSuggestion { Suggestion.ofColor ⟨label, value⟩ with rank := rank }
        let hex := hexColor value
        ∃ detail, made.resolve = { made with detail := some detail } ∧
          (detail = s!"Color: {value} ({hex})" ∨ made.detail = some detail) ∧
          (detail = s!"Color: {value} ({hex})" ↔ hex ≠ value ∧ value ≠ "transparent" ∧ hex ≠ "transparent") := by
  refine ⟨item.resolve_resolve, ?_, resolve_of_not_findsColor, fun members => resolve_data, ?_⟩
  · rcases item.resolve_cases with ⟨_, unchanged⟩ | ⟨swatch, _, _, resolved⟩
    · exact ⟨item.documentation, item.detail, item.data, unchanged⟩
    · exact ⟨_, _, _, resolved⟩
  · intro label value rank made hex
    have resolved : made.resolve = { made with detail := namedDetail made.detail ⟨hex, value⟩ } :=
      resolve_ofColor ⟨label, value⟩ rank
    by_cases named : value ≠ hex ∧ value ≠ "transparent" ∧ hex ≠ "transparent"
    · rw [namedDetail, if_pos named] at resolved
      exact ⟨_, resolved, .inl rfl, fun _ => ⟨named.1.symm, named.2⟩, fun _ => rfl⟩
    · rw [namedDetail, if_neg named] at resolved
      refine ⟨"Color: " ++ value, resolved, .inr rfl, fun both => ?_, fun differ => ?_⟩
      · exact absurd both (ne_both_forms value hex)
      · exact absurd ⟨differ.1.symm, differ.2⟩ named

/-- The color is in the data under the second of its two keys, between members that describe no swatch. -/
theorem resolve_settles_and_keeps_rest_among_others :
    let item : CompletionItem := ⟨"sand", some 16, some "Color: x", none, none, none, none,
      some (.obj [("id", .num (.int 7)), ("color", .str "#F5F5DC"), ("group", .null),
        ("originalColor", .str "beige")]), []⟩
    let bare : CompletionItem := ⟨"sand", some 16, some "color: x", none, none, none, none, some (.arr []), []⟩
    item.resolve.detail = some "Color: beige (#F5F5DC)" ∧ item.resolve.resolve = item.resolve ∧
      (∃ resolved, item.resolve.data = some (.obj resolved) ∧ resolved[2]? = some ("group", .null)) ∧
      bare.resolve = bare := by
  intro item bare
  obtain ⟨again, _, _, keeps, _⟩ := resolve_settles_and_keeps_rest item
  obtain ⟨resolved, data, kept, _⟩ := keeps _ rfl
  have group := kept 2 ("group", .null) rfl (by decide)
  have noColor : ¬(bare.kind = some colorKind ∧ bare.FindsColor) := by
    rintro ⟨_, color⟩
    cases color with
    | data object => cases object
    | detail text =>
      have chars := congrArg (Option.map String.toList) text
      simp [bare] at chars
  exact ⟨rfl, again, ⟨resolved, data, group⟩, (resolve_settles_and_keeps_rest bare).2.2.1 noColor⟩

end ThemeSense.CompletionItem
