import ThemeSense.Proofs.Standing
import ThemeSense.Proofs.Theme.Deferred

namespace ThemeSense

/-- Every entry that stands in an object, converted under its name and in its place. -/
def EachConverted {α : Type} (Converts : Json → α → Prop) (entries : List (String × Json)) (table : Table α) : Prop :=
  List.Forall₂ (fun entry converted => entry.1 = converted.1 ∧ Converts entry.2 converted.2)
    (Table.standing entries) table

def Json.IsText (json : Json) (text : String) : Prop :=
  json.cssText? = some text

/-- The group of a color keeps all its members, those that are no colors too. -/
inductive ColorEntry.Converts : Json → ColorEntry → Prop where
  | value (color : String) : Converts (.str color) (.value color)
  | group (entries : List (String × Json)) : Converts (.obj entries)
      (.group ((Table.standing entries).map fun entry => (entry.1, GroupMember.ofJson entry.2.merged)))

inductive FontFamily.Converts : Json → FontFamily → Prop where
  | single (font : String) : Converts (.str font) (.single font)
  | stack (fonts : List String) : Converts (.arr (fonts.map .str)) (.stack fonts)

inductive SizeValue.Converts : Json → SizeValue → Prop where
  | shorthand {json : Json} {text : String} (isText : json.IsText text) : Converts json (.shorthand text)
  | properties {entries : List (String × Json)} {values : Table String}
      (each : EachConverted Json.IsText entries values) : Converts (.obj entries) (.properties values)

inductive FontSize.Converts : Json → FontSize → Prop where
  | fixed {json : Json} {text : String} (isText : json.IsText text) : Converts json (.fixed text)
  | responsive {entries : List (String × Json)} {sizes : Table SizeValue}
      (each : EachConverted SizeValue.Converts entries sizes) : Converts (.obj entries) (.responsive sizes)

inductive SpacingValue.Converts : Json → SpacingValue → Prop where
  | length {json : Json} {text : String} (isText : json.IsText text) : Converts json (.length text)
  | nested {json : Json} (noText : ∀ text, ¬ json.IsText text) : Converts json (.nested json.merged)

namespace Json

theorem cssText?_merged (json : Json) : json.merged.cssText? = json.cssText? := by
  cases json <;> rfl

theorem ofList_mergedMembers (entries : List (String × Json)) :
    Table.ofList (mergedMembers entries) = (Table.standing entries).map fun entry => (entry.1, entry.2.merged) := by
  rw [mergedMembers_eq, Table.ofList_map, Table.ofList_eq_standing]

/-- An object is read as a table exactly if each of its entries can be read, and then the table has
them all. -/
theorem table?_merged_iff {α : Type} {read : Json → Option α} {Converts : Json → α → Prop}
    (reads : ∀ json value, read json.merged = some value ↔ Converts json value) (json : Json) (table : Table α) :
    json.merged.table? read = some table ↔ ∃ entries, json = .obj entries ∧ EachConverted Converts entries table := by
  cases json with
  | obj entries =>
    have rows (converted : Table α) : Table.mapM? read (Table.ofList (mergedMembers entries)) = some converted ↔
        EachConverted Converts entries converted := by
      rw [ofList_mergedMembers, Table.mapM?_eq_some_iff, List.forall₂_map_left_iff]
      simp only [reads, EachConverted]
    have distinct {converted : Table α} (each : EachConverted Converts entries converted) :
        Table.ofList converted = converted := by
      refine Table.ofList_of_distinct ?_
      rw [Table.names_of_forall₂ each]
      exact Table.standing_distinct entries
    rw [merged, table?, Option.map_eq_some_iff]
    constructor
    · rintro ⟨converted, all, rfl⟩
      have each := (rows converted).mp all
      exact ⟨entries, rfl, by rwa [distinct each]⟩
    · rintro ⟨_, ⟨⟩, each⟩
      exact ⟨table, (rows table).mpr each, distinct each⟩
  | null | bool _ | num _ | str _ | arr _ => simp [merged, table?]

theorem map_table?_merged_iff {α β : Type} {read : Json → Option α} {Converts : Json → α → Prop}
    (reads : ∀ json value, read json.merged = some value ↔ Converts json value) (whole : Table α → β) (json : Json)
    (value : β) : (json.merged.table? read).map whole = some value ↔
      ∃ entries table, json = .obj entries ∧ EachConverted Converts entries table ∧ whole table = value := by
  simp only [Option.map_eq_some_iff, table?_merged_iff reads]
  constructor
  · rintro ⟨table, ⟨entries, isObject, each⟩, same⟩
    exact ⟨entries, table, isObject, each, same⟩
  · rintro ⟨entries, table, isObject, each, same⟩
    exact ⟨table, ⟨entries, isObject, each⟩, same⟩

theorem texts_of_items (items : List Json) (fonts : List String) :
    (mergedItems items).mapM text? = some fonts ↔ items = fonts.map .str := by
  induction items generalizing fonts with
  | nil => cases fonts <;> simp [mergedItems]
  | cons item items ih =>
    rw [mergedItems, List.mapM_cons]
    cases item with
    | str text =>
      simp only [merged, text?, bind, pure, Option.bind_some, Option.bind_eq_some_iff, Option.some.injEq, ih]
      cases fonts with
      | nil => simp
      | cons font fonts => simp [and_comm]
    | null | bool _ | num _ | arr _ | obj _ => cases fonts <;> simp [merged, text?]

theorem isText_merged_iff (json : Json) (text : String) : json.merged.cssText? = some text ↔ json.IsText text := by
  rw [cssText?_merged, IsText]

end Json

theorem ColorEntry.ofJson?_merged_iff (json : Json) (entry : ColorEntry) :
    ofJson? json.merged = some entry ↔ Converts json entry := by
  cases json with
  | str color =>
    simp only [Json.merged, ofJson?, Option.some.injEq]
    constructor
    · rintro rfl
      exact .value color
    · intro converts
      cases converts
      rfl
  | obj entries =>
    have members : Table.ofList ((Table.ofList (Json.mergedMembers entries)).map fun row =>
        (row.1, GroupMember.ofJson row.2.merged)) =
        (Table.standing entries).map fun entry => (entry.1, GroupMember.ofJson entry.2.merged) := by
      rw [Json.ofList_merged, Table.ofList_map fun (json : Json) => GroupMember.ofJson json.merged,
        Table.ofList_eq_standing]
    simp only [Json.merged, ofJson?, members, Option.some.injEq]
    constructor
    · rintro rfl
      exact .group entries
    · intro converts
      cases converts
      rfl
  | null | bool _ | num _ | arr _ =>
    simp only [Json.merged, ofJson?, reduceCtorEq, false_iff]
    intro converts
    cases converts

theorem FontFamily.ofJson?_merged_iff (json : Json) (family : FontFamily) :
    ofJson? json.merged = some family ↔ Converts json family := by
  cases json with
  | str font =>
    simp only [Json.merged, ofJson?, Option.some.injEq]
    constructor
    · rintro rfl
      exact .single font
    · intro converts
      cases converts
      rfl
  | arr items =>
    simp only [Json.merged, ofJson?, Option.map_eq_some_iff, Json.texts_of_items]
    constructor
    · rintro ⟨fonts, rfl, rfl⟩
      exact .stack fonts
    · intro converts
      cases converts with
      | stack fonts => exact ⟨fonts, rfl, rfl⟩
  | null | bool _ | num _ | obj _ =>
    simp only [Json.merged, ofJson?, reduceCtorEq, false_iff]
    intro converts
    cases converts

theorem SizeValue.ofJson?_merged_iff (json : Json) (value : SizeValue) :
    ofJson? json.merged = some value ↔ Converts json value := by
  rw [ofJson?, Json.cssText?_merged]
  cases text : json.cssText? with
  | some found =>
    rw [Option.some.injEq]
    constructor
    · rintro rfl
      exact .shorthand text
    · intro converts
      cases converts with
      | shorthand isText => rw [Option.some.inj (text.symm.trans isText)]
      | properties _ => cases text
  | none =>
    rw [Json.map_table?_merged_iff Json.isText_merged_iff]
    constructor
    · rintro ⟨entries, values, rfl, each, rfl⟩
      exact .properties each
    · intro converts
      cases converts with
      | shorthand isText => cases text.symm.trans isText
      | properties each => exact ⟨_, _, rfl, each, rfl⟩

theorem FontSize.ofJson?_merged_iff (json : Json) (size : FontSize) :
    ofJson? json.merged = some size ↔ Converts json size := by
  rw [ofJson?, Json.cssText?_merged]
  cases text : json.cssText? with
  | some found =>
    rw [Option.some.injEq]
    constructor
    · rintro rfl
      exact .fixed text
    · intro converts
      cases converts with
      | fixed isText => rw [Option.some.inj (text.symm.trans isText)]
      | responsive _ => cases text
  | none =>
    rw [Json.map_table?_merged_iff SizeValue.ofJson?_merged_iff]
    constructor
    · rintro ⟨entries, sizes, rfl, each, rfl⟩
      exact .responsive each
    · intro converts
      cases converts with
      | fixed isText => cases text.symm.trans isText
      | responsive each => exact ⟨_, _, rfl, each, rfl⟩

theorem SpacingValue.ofJson_merged_iff (json : Json) (value : SpacingValue) :
    (some ∘ ofJson) json.merged = some value ↔ Converts json value := by
  rw [Function.comp_apply, Option.some.injEq, ofJson, Json.cssText?_merged]
  cases text : json.cssText? with
  | some found =>
    constructor
    · rintro rfl
      exact .length text
    · intro converts
      cases converts with
      | length isText => rw [Option.some.inj (text.symm.trans isText)]
      | nested noText => exact absurd text (noText found)
  | none =>
    have noText : ∀ found, ¬ json.IsText found := fun found isText => by cases text.symm.trans isText
    constructor
    · rintro rfl
      exact .nested noText
    · intro converts
      cases converts with
      | length isText => exact absurd isText (noText _)
      | nested _ => rfl

/-- What becomes of a section: all that stands in its value, converted as a whole, or its default. It is
the default only if there is no such conversion. -/
inductive PartOutcome {α β : Type} (Converts : Json → α → Prop) (whole : Table α → β) (default : β)
    (value : Option Json) : β → Prop where
  | converted {entries : List (String × Json)} {table : Table α} (isObject : value = some (.obj entries))
      (each : EachConverted Converts entries table) : PartOutcome Converts whole default value (whole table)
  | defaulted (none : ∀ entries table, value = some (.obj entries) → ¬ EachConverted Converts entries table) :
      PartOutcome Converts whole default value default

theorem section?_outcome {α β : Type} {read : Json → Option α} {Converts : Json → α → Prop}
    (reads : ∀ json value, read json.merged = some value ↔ Converts json value) {convert : Json → Option β}
    {whole : Table α → β} (converts : ∀ json, convert json = (json.table? read).map whole) (default : β)
    (value : Option Json) :
    PartOutcome Converts whole default value (section? convert default (value.map Json.merged)) := by
  cases value with
  | none => exact .defaulted (by simp)
  | some json =>
    have shown : section? convert default (some json.merged) = ((json.merged.table? read).map whole).getD default := by
      rw [← converts]
      cases json with
      | null => simp [section?, Json.merged, converts, Json.table?]
      | bool _ | num _ | str _ | arr _ | obj _ => rfl
    rw [Option.map_some, shown]
    cases found : (json.merged.table? read).map whole with
    | some result =>
      obtain ⟨entries, table, rfl, each, rfl⟩ := (Json.map_table?_merged_iff reads whole json result).mp found
      exact .converted rfl each
    | none =>
      refine .defaulted fun entries table isObject each => ?_
      have converted := (Json.map_table?_merged_iff reads whole json (whole table)).mpr
        ⟨entries, table, Option.some.inj isObject, each, rfl⟩
      cases found.symm.trans converted

/-- What a typography of any shape has under a key: an object by its members, an array by the place of
the key, unless it is too long. -/
def Json.typographyPart? (typography : Json) (key : String) : Option Json :=
  match typography with
  | .obj parts => (Json.obj parts).member? key
  | .arr items => if items.length ≤ typographyFields.length then items[typographyFields.idxOf key]? else none
  | _ => none

theorem Typography.ofJson_merged (typography : Option Json) :
    Typography.ofJson (typography.map Json.merged) =
      .ofSections ((typography.bind (·.typographyPart? "families")).map Json.merged)
        ((typography.bind (·.typographyPart? "sizes")).map Json.merged) := by
  cases typography with
  | none => rfl
  | some json =>
    cases json with
    | obj parts =>
      rw [Option.map_some, Json.merged, Option.bind_some, Option.bind_some, Json.typographyPart?, Json.typographyPart?,
        ← Json.get?_merged, ← Json.get?_merged]
      rfl
    | arr items =>
      rcases items with _ | ⟨families, _ | ⟨sizes, _ | ⟨more, rest⟩⟩⟩
      · rfl
      · rfl
      · rfl
      · simp [Json.merged, Json.mergedItems, Typography.ofJson, section?, Json.fields?, typographyFields,
          Json.typographyPart?]
    | null | bool _ | num _ | str _ => rfl

/-- The parts of a theme that are converted each on its own. -/
inductive ThemePart where
  | colors
  | breakpoints
  | collections
  | spacing
  | families
  | sizes
deriving DecidableEq

namespace ThemePart

/-- The value of a part in a theme with these members. -/
def value? (members : List (String × Json)) : ThemePart → Option Json
  | .colors => (Json.obj members).member? "colors"
  | .breakpoints => (Json.obj members).member? "breakpoints"
  | .collections => (Json.obj members).member? "breakpointCollections"
  | .spacing => (Json.obj members).member? "spacing"
  | .families => ((Json.obj members).member? "typography").bind (·.typographyPart? "families")
  | .sizes => ((Json.obj members).member? "typography").bind (·.typographyPart? "sizes")

/-- Two themes have the same in this part. -/
def Same (one other : Theme) : ThemePart → Prop
  | .colors => one.colors = other.colors
  | .breakpoints => one.breakpoints = other.breakpoints
  | .collections => one.collections = other.collections
  | .spacing => one.spacing = other.spacing
  | .families => one.families = other.families
  | .sizes => one.sizes = other.sizes

/-- A part of a theme is the outcome of this value. -/
def OutcomeOf (value : Option Json) (theme : Theme) : ThemePart → Prop
  | .colors => PartOutcome ColorEntry.Converts (fun rows => some (.table ⟨rows⟩)) none value theme.colors
  | .breakpoints => PartOutcome Json.IsText id [] value theme.breakpoints
  | .collections => PartOutcome Json.IsText id [] value theme.collections
  | .spacing => PartOutcome SpacingValue.Converts id [] value theme.spacing
  | .families => PartOutcome FontFamily.Converts id [] value theme.families
  | .sizes => PartOutcome FontSize.Converts id [] value theme.sizes

end ThemePart

namespace Theme

/-- The theme of a config whose theme has these members, repeated keys included. -/
def ofMembers (members : List (String × Json)) : Theme :=
  ofJson none (some (Json.obj members).merged)

/-- Each part of a theme is read from its own value alone. -/
theorem ofMembers_eq (members : List (String × Json)) :
    let value (part : ThemePart) := (part.value? members).map Json.merged
    ofMembers members =
      { colors := section? (fun json => (ColorTable.ofJson? json).map (some ∘ ColorSource.table)) none (value .colors)
        breakpoints := section? (Json.table? Json.cssText?) [] (value .breakpoints)
        collections := section? (Json.table? Json.cssText?) [] (value .collections)
        families := section? (Json.table? FontFamily.ofJson?) [] (value .families)
        sizes := section? (Json.table? FontSize.ofJson?) [] (value .sizes)
        spacing := section? (Json.table? (some ∘ SpacingValue.ofJson)) [] (value .spacing) } := by
  have sections : ofMembers members = ofSections none
      ((Table.ofList (Json.mergedMembers members)).get? "colors")
      ((Table.ofList (Json.mergedMembers members)).get? "breakpoints")
      ((Table.ofList (Json.mergedMembers members)).get? "breakpointCollections")
      ((Table.ofList (Json.mergedMembers members)).get? "typography")
      ((Table.ofList (Json.mergedMembers members)).get? "spacing") := by
    rw [ofMembers, Json.merged]
    rfl
  rw [sections]
  simp only [Json.get?_merged, ofSections, Typography.ofJson_merged]
  rfl

theorem same_of_value? {members changed : List (String × Json)} (part : ThemePart)
    (same : part.value? changed = part.value? members) : part.Same (ofMembers changed) (ofMembers members) := by
  rw [ofMembers_eq, ofMembers_eq]
  cases part <;> simp only [ThemePart.Same, same]

theorem outcome (members : List (String × Json)) (part : ThemePart) :
    part.OutcomeOf (part.value? members) (ofMembers members) := by
  rw [ofMembers_eq]
  cases part with
  | colors =>
    refine section?_outcome ColorEntry.ofJson?_merged_iff (fun json => ?_) _ _
    simp [ColorTable.ofJson?, Function.comp_def]
  | breakpoints | collections => exact section?_outcome Json.isText_merged_iff (by simp) _ _
  | spacing => exact section?_outcome SpacingValue.ofJson_merged_iff (by simp) _ _
  | families => exact section?_outcome FontFamily.ofJson?_merged_iff (by simp) _ _
  | sizes => exact section?_outcome FontSize.ofJson?_merged_iff (by simp) _ _

/-- Whatever stands in the place of one part of a theme, the other parts are what they were, and the part
itself is converted as a whole or takes its default. The same holds of the whole typography, of which
each part is converted or takes its default on its own. -/
theorem malformed_part_harms_only_itself (members changed : List (String × Json)) :
    (∀ part : ThemePart, (∀ other ≠ part, other.value? changed = other.value? members) →
      (∀ other ≠ part, other.Same (ofMembers changed) (ofMembers members)) ∧
        part.OutcomeOf (part.value? changed) (ofMembers changed)) ∧
    ((∀ key ∈ themeFields, key ≠ "typography" →
        (Json.obj changed).member? key = (Json.obj members).member? key) →
      (∀ other : ThemePart, other ≠ .families → other ≠ .sizes →
        other.Same (ofMembers changed) (ofMembers members)) ∧
      ∀ typography, (Json.obj changed).member? "typography" = typography →
        ThemePart.families.OutcomeOf (typography.bind (·.typographyPart? "families")) (ofMembers changed) ∧
        ThemePart.sizes.OutcomeOf (typography.bind (·.typographyPart? "sizes")) (ofMembers changed)) := by
  constructor
  · intro part rest
    exact ⟨fun other different => same_of_value? other (rest other different), outcome changed part⟩
  · intro rest
    constructor
    · intro other notFamilies notSizes
      refine same_of_value? other ?_
      cases other with
      | colors => exact rest "colors" (by decide) (by decide)
      | breakpoints => exact rest "breakpoints" (by decide) (by decide)
      | collections => exact rest "breakpointCollections" (by decide) (by decide)
      | spacing => exact rest "spacing" (by decide) (by decide)
      | families => exact absurd rfl notFamilies
      | sizes => exact absurd rfl notSizes
    · rintro typography rfl
      exact ⟨outcome changed .families, outcome changed .sizes⟩

/-- One property deep inside the sizes is no text, and the sizes are gone, but nothing else is. -/
theorem malformed_part_harms_only_itself_deep_inside :
    let families : Json := .obj [("main", .arr [.str "Deckard", .str "serif"])]
    let spacing : Json := .obj [("xs", .str "4px")]
    let sizes (property : Json) : Json :=
      .obj [("h1", .obj [("mobile", .obj [("font-size", property)])]), ("small", .str "14px")]
    let members (property : Json) : List (String × Json) :=
      [("typography", .obj [("families", families), ("sizes", sizes property)]), ("spacing", spacing)]
    let before := ofMembers (members (.str "32px"))
    let after := ofMembers (members .null)
    before.sizes.names = ["h1", "small"] ∧ after.sizes = [] ∧ after.families = before.families ∧
      after.families = [("main", .stack ["Deckard", "serif"])] ∧ after.spacing = before.spacing ∧
      after.spacing.names = ["xs"] := by
  intro families spacing sizes members before after
  have rest : ∀ other ≠ ThemePart.sizes, other.value? (members .null) = other.value? (members (.str "32px")) := by
    intro other different
    cases other with
    | sizes => exact absurd rfl different
    | colors | breakpoints | collections | spacing | families => rfl
  obtain ⟨same, _⟩ := (malformed_part_harms_only_itself (members (.str "32px")) (members .null)).1 .sizes rest
  have noSizes : after.sizes = [] := by decide +kernel
  exact ⟨by decide +kernel, noSizes, same .families (by decide), by decide +kernel, same .spacing (by decide),
    by decide +kernel⟩

end Theme

end ThemeSense
