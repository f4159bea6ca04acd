import ThemeSense.Proofs.Script.Places
import ThemeSense.Proofs.Table
import ThemeSense.Proofs.Theme.Answers

namespace ThemeSense

namespace Json

theorem mergedMembers_eq (members : List (String × Json)) :
    mergedMembers members = members.map fun row => (row.1, row.2.merged) := by
  induction members with
  | nil => rfl
  | cons row members ih => rw [List.map_cons, ← ih, mergedMembers]

theorem mergedMembers_ofList (members : List (String × Json)) :
    mergedMembers (Table.ofList members) = Table.ofList (mergedMembers members) := by
  rw [mergedMembers_eq, mergedMembers_eq, Table.ofList_map]

mutual

/-- Once the repeated keys are resolved there are none. -/
theorem merged_merged : (json : Json) → json.merged.merged = json.merged
  | .null => rfl
  | .bool _ => rfl
  | .num _ => rfl
  | .str _ => rfl
  | .arr items => by rw [merged, merged, mergedItems_mergedItems items]
  | .obj members => by
    rw [merged, merged, mergedMembers_ofList, mergedMembers_mergedMembers members, Table.ofList_ofList]

theorem mergedItems_mergedItems : (items : List Json) → mergedItems (mergedItems items) = mergedItems items
  | [] => rfl
  | item :: items => by rw [mergedItems, mergedItems, merged_merged item, mergedItems_mergedItems items]

theorem mergedMembers_mergedMembers :
    (members : List (String × Json)) → mergedMembers (mergedMembers members) = mergedMembers members
  | [] => rfl
  | (key, json) :: members => by
    rw [mergedMembers, mergedMembers, merged_merged json, mergedMembers_mergedMembers members]

end

/-- Resolving the repeated keys keeps what each key is read as. -/
theorem get?_merged (members : List (String × Json)) (key : String) :
    (Table.ofList (mergedMembers members)).get? key = ((Json.obj members).member? key).map merged := by
  rw [Table.get?_ofList, mergedMembers_eq, ← List.map_reverse, List.find?_map, Option.map_map, member?,
    Option.map_map]
  rfl

theorem member?_eq (members : List (String × Json)) (key : String) :
    (Json.obj members).member? key = (members.filter (·.1 = key)).getLast?.map (·.2) := by
  rw [member?, ← List.head?_filter, List.filter_reverse, List.head?_reverse]

theorem not_mem_of_member? {members : List (String × Json)} {key : String}
    (absent : (Json.obj members).member? key = none) (json : Json) : (key, json) ∉ members := by
  rw [member?_eq, Option.map_eq_none_iff, List.getLast?_eq_none_iff, List.filter_eq_nil_iff] at absent
  exact fun member => absent _ member (by simp)

/-- Members whose values are read with their repeated keys resolved may have their own resolved before. -/
theorem ofList_merged {α : Type} (f : Json → α) (members : List (String × Json)) :
    Table.ofList ((Table.ofList (mergedMembers members)).map fun row => (row.1, f row.2.merged)) =
      Table.ofList (members.map fun row => (row.1, f row.2.merged)) := by
  have inner : (mergedMembers members).map (fun row => (row.1, f row.2.merged)) =
      members.map fun row => (row.1, f row.2.merged) := by
    rw [mergedMembers_eq, List.map_map]
    refine List.map_congr_left fun row _ => ?_
    simp [merged_merged]
  rw [← Table.ofList_map fun (json : Json) => f json.merged, Table.ofList_ofList, inner]

/-- A key that is declared once is read as declared. -/
theorem member?_of_once {members : List (String × Json)} {key : String} {json : Json}
    (once : (members.filter (·.1 = key)).length ≤ 1) (member : (key, json) ∈ members) :
    (Json.obj members).member? key = some json := by
  have found : (key, json) ∈ members.filter (·.1 = key) := List.mem_filter.mpr ⟨member, by simp⟩
  have single : members.filter (·.1 = key) = [(key, json)] := by
    generalize members.filter (·.1 = key) = declared at once found
    match declared with
    | [row] => rw [List.mem_singleton.mp found]
  rw [member?_eq, single]
  rfl

end Json

theorem ColorEntry.ofJson?_merged {json : Json} {entry : ColorEntry} (found : ofJson? json = some entry) :
    ofJson? json.merged = some entry := by
  cases json with
  | str color => exact found
  | obj members =>
    rw [← found, Json.merged]
    exact congrArg (some ∘ group) (Json.ofList_merged GroupMember.ofJson members)
  | null | bool _ | num _ | arr _ => cases found

theorem ColorTable.ofJson?_merged {json : Json} {table : ColorTable} (found : ofJson? json = some table) :
    ofJson? json.merged = some table := by
  cases json with
  | obj members =>
    cases all : Table.mapM? ColorEntry.ofJson? members with
    | none => simp [ofJson?, Json.table?, all] at found
    | some rows =>
      have eachMerged : Table.mapM? ColorEntry.ofJson? (Json.mergedMembers members) = some rows := by
        rw [Json.mergedMembers_eq]
        exact Table.mapM?_map (fun _ _ found => ColorEntry.ofJson?_merged found) all
      rw [← found, Json.merged]
      simp [ofJson?, Json.table?, all, Table.mapM?_ofList eachMerged, Table.ofList_ofList]
  | null | bool _ | num _ | str _ | arr _ => cases found

theorem ColorEntry.isSome_of_merged {json : Json} (found : (ofJson? json.merged).isSome = true) :
    (ofJson? json).isSome = true := by
  cases json with
  | str _ | obj _ => rfl
  | null | bool _ | num _ | arr _ => cases found

/-- Declarations of which each that a later one replaces is a color, or a group of colors, too. -/
def RepeatsColors (members : List (String × Json)) : Prop :=
  members.Pairwise fun earlier later => earlier.1 = later.1 → (ColorEntry.ofJson? earlier.2).isSome = true

theorem ColorTable.isSome_of_merged {members : List (String × Json)} (repeats : RepeatsColors members)
    (found : (ofJson? (Json.obj members).merged).isSome = true) : (ofJson? (.obj members)).isSome = true := by
  have holding : ∀ row ∈ Table.ofList (Json.mergedMembers members), (ColorEntry.ofJson? row.2).isSome = true := by
    rw [Json.merged, ofJson?, Option.isSome_map, Json.table?, Option.isSome_map] at found
    exact Table.mapM?_isSome.mp found
  rw [ofJson?, Option.isSome_map, Json.table?, Option.isSome_map, Table.mapM?_isSome]
  -- what no later declaration replaces still holds after the repeated keys are resolved
  intro row member
  obtain ⟨earlier, later, rfl⟩ := List.append_of_mem member
  by_cases replaced : ∃ next ∈ later, row.1 = next.1
  · obtain ⟨next, inLater, same⟩ := replaced
    have pairs := (List.pairwise_append.mp repeats).2.1
    exact (List.pairwise_cons.mp pairs).1 next inLater same
  · have last : (Json.obj (earlier ++ row :: later)).member? row.1 = some row.2 := by
      have none : later.filter (·.1 = row.1) = [] := by
        rw [List.filter_eq_nil_iff]
        exact fun next inLater same => replaced ⟨next, inLater, (of_decide_eq_true same).symm⟩
      simp [Json.member?_eq, none]
    have holds := Table.mem_of_get? ((Json.get?_merged _ row.1).trans (congrArg _ last))
    exact ColorEntry.isSome_of_merged (holding _ holds)

theorem ColorTable.ofJson?_merged_eq {json : Json}
    (repeats : ∀ entries, json = .obj entries → RepeatsColors entries) : ofJson? json.merged = ofJson? json := by
  cases found : ofJson? json with
  | some table => exact ofJson?_merged found
  | none =>
    cases json with
    | obj entries =>
      have lost := mt (isSome_of_merged (repeats entries rfl)) (by simp [found])
      simpa using lost
    | null | bool _ | num _ | str _ | arr _ => rfl

/-- An object that can be exported has at most one theme. -/
theorem exportedTheme?_obj {rows : List (String × Json)} {exported : Option Json}
    (found : exportedTheme? (.obj rows) = some exported) :
    (rows.filter (·.1 = "theme")).length ≤ 1 ∧ exported = ((Json.obj rows).member? "theme").map Json.merged := by
  rw [exportedTheme?] at found
  rw [Json.member?_eq]
  split at found
  next none =>
    cases found
    simp [none]
  next one =>
    cases found
    simp [one]
  next => cases found

/-- The color table at the place for it in an exported object, its repeated keys resolved. -/
def Json.colorsByKey? (json : Json) : Option ColorTable :=
  ((json.member? "theme").bind (·.member? "colors")).bind fun colors => ColorTable.ofJson? colors.merged

namespace Theme

theorem colorTable?_eq (theme : Theme) : theme.colorTable? = theme.colors.bind (·.resolve.1) := by
  rw [colorTable?, resolveColors]
  cases theme.colors <;> rfl

theorem colors_ofJson (source : Option ColorSource) (exported : Option Json) :
    (ofJson source exported).colors = (source <|> (ofJson none exported).colors) := by
  unfold ofJson
  split <;> simp [ofSections]

theorem colorTable?_ofSections (colors breakpoints collections typography spacing : Option Json) :
    (ofSections none colors breakpoints collections typography spacing).colorTable? =
      colors.bind ColorTable.ofJson? := by
  rw [colorTable?_eq, ofSections]
  cases colors with
  | none => rfl
  | some json =>
    cases json with
    | obj members => cases found : ColorTable.ofJson? (.obj members) <;> simp [section?, found, ColorSource.resolve]
    | null | bool _ | num _ | str _ | arr _ => rfl

theorem colorTable?_ofJson_obj (members : List (String × Json)) :
    (ofJson none (some (.obj members))).colorTable? = (Table.get? members "colors").bind ColorTable.ofJson? :=
  colorTable?_ofSections _ _ _ _ _

/-- What is read of a theme without functions is what stands under its keys. -/
theorem colorTable?_ofJson {rows : List (String × Json)} {exported : Option Json}
    (found : exportedTheme? (.obj rows) = some exported)
    (noArray : ∀ items, (Json.obj rows).member? "theme" ≠ some (.arr items)) :
    (ofJson none exported).colorTable? = (Json.obj rows).colorsByKey? := by
  rw [(exportedTheme?_obj found).2, Json.colorsByKey?]
  cases isTheme : (Json.obj rows).member? "theme" with
  | none => exact colorTable?_ofSections none none none none none
  | some theme =>
    cases theme with
    | obj members =>
      rw [Option.map_some, Json.merged, colorTable?_ofJson_obj, Json.get?_merged, Option.bind_map, Option.bind_some]
      rfl
    | arr items => exact absurd isTheme (noArray items)
    | null | bool _ | num _ | str _ => exact colorTable?_ofSections none none none none none

theorem colorTable?_of_function {theme : Theme} {body : String}
    (function : theme.colors = some (.function (.ofResults fun _ => colorFunctionResult body))) :
    theme.colorTable? = (Json.parseRelaxed? body).bind ColorTable.ofJson? := by
  rw [colorTable?_eq, function]
  cases found : (Json.parseRelaxed? body).bind ColorTable.ofJson? <;>
    simp [ColorSource.resolve, ColorFunction.invoke, ColorFunction.ofResults, colorFunctionResult, found]

end Theme

/-- An exported object whose colors stand in no place but the one for them. -/
structure PlainColors (json : Json) : Prop where
  noDotted : json.member? "theme.colors" = none
  noArray : ∀ items, json.member? "theme" ≠ some (.arr items)
  once : ∀ members, json.member? "theme" = some (.obj members) → (members.filter (·.1 = "colors")).length ≤ 1
  repeats : ∀ members entries, json.member? "theme" = some (.obj members) → ("colors", .obj entries) ∈ members →
    RepeatsColors entries

/-- A script of the config language that exports such an object. -/
def HasPlainColors (script : String) : Prop :=
  ∃ (source : Script.Source) (rows : List (String × Json)), script = String.ofList source.text ∧
    source.isClear = true ∧ source.value.json? = some (.obj rows) ∧ PlainColors (.obj rows)

/-- The function is the one at the place for the colors: it returns what stands there, and redeclares a color only
after a color or a group. -/
def Script.Thunk.AtColors (thunk : Script.Thunk) (json : Json) : Prop :=
  ∃ colors, (json.member? "theme").bind (·.member? "colors") = some colors ∧
    Json.parseRelaxed? thunk.body = some colors ∧ ∀ entries, colors = .obj entries → RepeatsColors entries

/-- The function recorded for the colors stands at their place. -/
theorem PlainColors.atColors {rows : List (String × Json)} (plain : PlainColors (.obj rows))
    {exported : Option Json} (found : exportedTheme? (.obj rows) = some exported) {value : Script.Value}
    (clear : value.isClear = true) (read : value.json? = some (.obj rows)) {thunk : Script.Thunk}
    (member : thunk ∈ value.thunks [] none) (key : thunk.key = "theme.colors") : thunk.AtColors (.obj rows) := by
  have themeBare : Script.BareName "theme" := ⟨by decide, by decide⟩
  have colorsBare : Script.BareName "colors" := ⟨by decide, by decide⟩
  -- of the places that have this path, a plain config leaves only one
  rcases value.place_of_thunk clear read themeBare colorsBare member key with
    ⟨json, dotted⟩ | ⟨outer, inRows, place⟩
  · exact absurd dotted (Json.not_mem_of_member? plain.noDotted json)
  have isTheme := Json.member?_of_once (exportedTheme?_obj found).1 inRows
  rcases place with ⟨items, rfl⟩ | ⟨members, colors, rfl, inMembers, body⟩
  · exact absurd isTheme (plain.noArray items)
  have isColors := Json.member?_of_once (plain.once members isTheme) inMembers
  refine ⟨colors, by rw [isTheme, Option.bind_some, isColors], body, ?_⟩
  rintro entries rfl
  exact plain.repeats members entries isTheme inMembers

/-- So it does in a script of the config language whose colors are plain. -/
theorem HasPlainColors.atColors {script : String} (plain : HasPlainColors script)
    {inlined : Script.Inlined} {json : Json}
    {exported : Option Json} (isInlined : Script.inline script = .ok inlined)
    (read : Json.parseRelaxed? inlined.source = some json) (isExported : exportedTheme? json = some exported)
    {thunk : Script.Thunk} (deferred : inlined.thunk? "theme.colors" = some thunk) : thunk.AtColors json := by
  obtain ⟨source, rows, rfl, clear, isValue, placed⟩ := plain
  cases source.inline_eq.symm.trans isInlined
  cases (source.parse clear).symm.trans read ▸ isValue
  have valueClear : source.value.isClear = true := by
    simp only [Script.Source.isClear, Bool.and_eq_true] at clear
    exact clear.1.1.2
  have recorded : thunk ∈ source.value.thunks [] none := List.mem_of_find?_eq_some deferred
  have key : thunk.key = "theme.colors" := by simpa using List.find?_some deferred
  exact placed.atColors isExported valueClear isValue recorded key

namespace Theme

/-- Where a function is recorded for the colors, the table is what the function returns. -/
theorem colorTable?_of_thunk {inlined : Script.Inlined} {thunk : Script.Thunk}
    (deferred : inlined.thunk? "theme.colors" = some thunk) (exported : Option Json) :
    (ofJson inlined.colorSource? exported).colorTable? =
      (Json.parseRelaxed? thunk.body).bind ColorTable.ofJson? := by
  refine colorTable?_of_function ?_
  rw [colors_ofJson, Script.Inlined.colorSource?, deferred]
  rfl

theorem colorTable?_of_atColors {json : Json} {exported : Option Json}
    (isExported : exportedTheme? json = some exported)
    {thunk : Script.Thunk} (placed : thunk.AtColors json) :
    (Json.parseRelaxed? thunk.body).bind ColorTable.ofJson? = (ofJson none exported).colorTable? := by
  obtain ⟨colors, place, returned, repeats⟩ := placed
  obtain ⟨theme, isTheme, isColors⟩ := Option.bind_eq_some_iff.mp place
  have noArray : ∀ items, json.member? "theme" ≠ some (.arr items) := by
    intro items isArray
    cases isTheme.symm.trans isArray
    cases isColors
  cases json with
  | obj rows =>
    rw [colorTable?_ofJson isExported noArray, Json.colorsByKey?, place, Option.bind_some, returned, Option.bind_some,
      ColorTable.ofJson?_merged_eq repeats]
  | null | bool _ | num _ | str _ | arr _ => cases isTheme

/-- Keeping the colors in a function until they are asked for does not change which color table is
read: it is the one that the theme gives with the function's result in its place. The table is always
what the function returns, so the function has to stand at this place, as it does in a script whose
colors are plain. -/
theorem deferred_colors_unchanged {script : String} {theme : Theme} (loaded : ofScript script = .ok theme) :
    ∃ inlined json exported, Script.inline script = .ok inlined ∧ Json.parseRelaxed? inlined.source = some json ∧
      exportedTheme? json = some exported ∧
      (∀ thunk, inlined.thunk? "theme.colors" = some thunk →
        theme.colorTable? = (Json.parseRelaxed? thunk.body).bind ColorTable.ofJson?) ∧
      ((∀ thunk, inlined.thunk? "theme.colors" = some thunk → HasPlainColors script ∨ thunk.AtColors json) →
        theme.colorTable? = (ofJson none exported).colorTable? ∧
        ((∀ items, json ≠ .arr items) → (∀ items, json.member? "theme" ≠ some (.arr items)) →
          theme.colorTable? = json.colorsByKey?)) := by
  obtain ⟨inlined, json, exported, isInlined, read, isExported, rfl⟩ := ofScript_ok loaded
  refine ⟨inlined, json, exported, isInlined, read, isExported,
    fun thunk deferred => colorTable?_of_thunk deferred exported, fun plain => ?_⟩
  have same : (ofJson inlined.colorSource? exported).colorTable? = (ofJson none exported).colorTable? := by
    cases deferred : inlined.thunk? "theme.colors" with
    | none => rw [Script.Inlined.colorSource?, deferred, Option.map_none]
    | some thunk =>
      have placed : thunk.AtColors json :=
        (plain thunk deferred).elim (·.atColors isInlined read isExported deferred) id
      rw [colorTable?_of_thunk deferred, colorTable?_of_atColors isExported placed]
  refine ⟨same, fun noArray noArrayTheme => ?_⟩
  cases json with
  | obj rows => exact same.trans (colorTable?_ofJson isExported noArrayTheme)
  | arr items => exact absurd rfl (noArray items)
  | null | bool _ | num _ | str _ => cases isExported

/-- The script `module.exports={theme:{colors:()=>({a:'#f00',a:'#0f0'})}}`. -/
def repeatingSource : Script.Source where
  before := []
  directive := none
  exporting := .assignment [] rfl
  lead := []
  value :=
    let property (name : List Char) (nonempty : name ≠ []) (isName : name.all Script.isKeyChar = true) :
        Script.PropertyHead := ⟨.plain name nonempty isName, [], []⟩
    let color (content : List Char) (fits : Script.fitsQuotes '\'' content = true) : Script.Value :=
      .scalar (.quoted ⟨'\'', .inl rfl, content, fits⟩)
    .object (.last [] (property "theme".toList nofun rfl)
      (.object (.last [] (property "colors".toList nofun rfl)
        (.function ⟨[], [], []⟩ []
          (.object (.next [] (property ['a'] nofun rfl) (color "#f00".toList rfl) []
            (.last [] (property ['a'] nofun rfl) (color "#0f0".toList rfl) []))) []) [])) [])
  after := []
  ending := none

theorem deferred_colors_unchanged_over_repeat :
    ∃ theme, ofScript (String.ofList repeatingSource.text) = .ok theme ∧
      HasPlainColors (String.ofList repeatingSource.text) ∧
      ∃ inlined json exported, Script.inline (String.ofList repeatingSource.text) = .ok inlined ∧
        Json.parseRelaxed? inlined.source = some json ∧ exportedTheme? json = some exported ∧
        theme.colorTable? = (ofJson none exported).colorTable? ∧
        ((∀ items, json ≠ .arr items) → (∀ items, json.member? "theme" ≠ some (.arr items)) →
          theme.colorTable? = json.colorsByKey?) := by
  have plain : HasPlainColors (String.ofList repeatingSource.text) := by
    let colors : List (String × Json) := [("a", .str "#f00"), ("a", .str "#0f0")]
    let rows : List (String × Json) := [("theme", .obj [("colors", .obj colors)])]
    refine ⟨repeatingSource, rows, rfl, by with_unfolding_all rfl, by with_unfolding_all rfl, ?_⟩
    have isTheme : (Json.obj rows).member? "theme" = some (.obj [("colors", .obj colors)]) := by
      simp [rows, Json.member?]
    have repeats : RepeatsColors colors := by simp [colors, RepeatsColors, ColorEntry.ofJson?]
    constructor
    · simp [rows, Json.member?]
    · simp [isTheme]
    · simp [isTheme]
    · intro members entries found inMembers
      cases isTheme.symm.trans found
      cases List.mem_singleton.mp inMembers
      exact repeats
  obtain ⟨theme, loaded⟩ : ∃ theme, ofScript (String.ofList repeatingSource.text) = .ok theme := by
    with_unfolding_all exact ⟨_, rfl⟩
  obtain ⟨inlined, json, exported, isInlined, read, isExported, _, unchanged⟩ := deferred_colors_unchanged loaded
  exact ⟨theme, loaded, plain, inlined, json, exported, isInlined, read, isExported, unchanged fun _ _ => .inl plain⟩

/-- The colors that the theme of a script reads, and those at their place in what it is inlined to. -/
def readAndWritten (script : String) : Option (List NamedValue) × Option (List NamedValue) :=
  let inlined := (Script.inline script).toOption.bind fun inlined => Json.parseRelaxed? inlined.source
  (((ofScript script).toOption.bind colorTable?).map ColorTable.entries,
    (inlined.bind Json.colorsByKey?).map ColorTable.entries)

/-- A function is taken for the colors under a key with a dot in it, before another declaration of the
colors, and inside an array. One that first declares a color as something else gives no colors. -/
theorem misplaced_colors_read :
    readAndWritten
        "module.exports=\x7b'theme.colors':()=>(\x7ba:'#f00'\x7d),theme:\x7bcolors:\x7bb:'#0f0'\x7d\x7d\x7d" =
        (some [⟨"a", "#f00"⟩], some [⟨"b", "#0f0"⟩]) ∧
      readAndWritten
        "module.exports=\x7btheme:\x7bcolors:()=>(\x7ba:'#f00'\x7d),colors:\x7bb:'#0f0'\x7d\x7d\x7d" =
        (some [⟨"a", "#f00"⟩], some [⟨"b", "#0f0"⟩]) ∧
      readAndWritten "module.exports=\x7btheme:[\x7bcolors:()=>(\x7ba:'#f00'\x7d)\x7d]\x7d" =
        (some [⟨"a", "#f00"⟩], none) ∧
      readAndWritten "module.exports=[\x7btheme:\x7bcolors:()=>(\x7ba:'#f00'\x7d)\x7d\x7d]" =
        (some [⟨"a", "#f00"⟩], none) ∧
      readAndWritten "module.exports=\x7btheme:\x7bcolors:()=>(\x7ba:1,a:'#f00'\x7d)\x7d\x7d" =
        (none, some [⟨"a", "#f00"⟩]) := by
  decide +kernel

end Theme

end ThemeSense
