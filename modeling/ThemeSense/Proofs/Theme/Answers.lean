import Mathlib.Logic.Function.Iterate
import ThemeSense.Proofs.Theme.Lookup
import ThemeSense.Theme.Config

namespace ThemeSense

namespace Theme

def accessed (theme : Theme) : Theme :=
  theme.resolveColors.2

/-- Every access reads the same color table. -/
def Steady (theme : Theme) : Prop :=
  ∀ count, (accessed^[count] theme).colorTable? = theme.colorTable?

def Distinct (theme : Theme) : Prop :=
  ∀ table, theme.colorTable? = some table → table.Distinct

def Undotted (theme : Theme) : Prop :=
  ∀ table, theme.colorTable? = some table → table.Undotted

def value? (theme : Theme) (name : String) : Option String :=
  theme.colorTable?.bind (·.lookup name)

theorem Steady.colorTable?_accessed {theme : Theme} (steady : theme.Steady) :
    theme.accessed.colorTable? = theme.colorTable? :=
  steady 1

theorem Steady.iterate {theme : Theme} (steady : theme.Steady) (count : Nat) : (accessed^[count] theme).Steady := by
  intro more
  rw [← Function.iterate_add_apply, steady, steady]

theorem Steady.accessed {theme : Theme} (steady : theme.Steady) : theme.accessed.Steady :=
  steady.iterate 1

theorem answer_snd (theme : Theme) (query : ColorQuery) : (theme.answer query).2 = theme.accessed := by
  cases query <;> rfl

theorem answer_all (theme : Theme) : (theme.answer .all).1 = (theme.colorTable?.map ColorTable.entries).getD [] := rfl

theorem answer_one (theme : Theme) (name : String) :
    (theme.answer (.one name)).1 = ((theme.value? name).map (⟨name, ·⟩)).toList := rfl

theorem mem_answer_one {theme : Theme} {name value : String} (found : theme.value? name = some value) :
    ⟨name, value⟩ ∈ (theme.answer (.one name)).1 := by
  simp [answer_one, found]

/-- The answer to a query for one name is the color that the theme has under it. -/
theorem value?_of_mem_answer_one {theme : Theme} {name : String} {color : NamedValue}
    (member : color ∈ (theme.answer (.one name)).1) : theme.value? color.name = some color.value := by
  rw [answer_one] at member
  cases value : theme.value? name with
  | none => simp [value] at member
  | some found =>
    simp only [value, Option.map_some, Option.toList_some, List.mem_singleton] at member
    rw [member, value]

namespace Steady

variable {theme : Theme}

theorem value?_iterate (steady : theme.Steady) (count : Nat) :
    (Theme.accessed^[count] theme).value? = theme.value? := by
  unfold value?
  rw [steady count]

theorem value?_accessed (steady : theme.Steady) : theme.accessed.value? = theme.value? :=
  steady.value?_iterate 1

theorem answer_accessed (steady : theme.Steady) (query : ColorQuery) :
    (theme.accessed.answer query).1 = (theme.answer query).1 := by
  cases query with
  | all => rw [answer_all, answer_all, steady.colorTable?_accessed]
  | one name => rw [answer_one, answer_one, steady.value?_accessed]

end Steady

/-- What a theme can be relied on for: each access reads the same colors, no name is declared twice, and
none has a dot. -/
structure Regular (theme : Theme) : Prop where
  steady : theme.Steady
  distinct : theme.Distinct
  undotted : theme.Undotted

namespace Regular

variable {theme : Theme}

theorem accessed (regular : theme.Regular) : theme.accessed.Regular where
  steady := regular.steady.accessed
  distinct := by
    unfold Distinct
    rw [regular.steady.colorTable?_accessed]
    exact regular.distinct
  undotted := by
    unfold Undotted
    rw [regular.steady.colorTable?_accessed]
    exact regular.undotted

theorem value?_accessed (regular : theme.Regular) : theme.accessed.value? = theme.value? :=
  regular.steady.value?_accessed

/-- Whatever is asked, a color in the answer is the one that the theme has under its name. -/
theorem value?_of_mem_answer (regular : theme.Regular) {query : ColorQuery} {color : NamedValue}
    (member : color ∈ (theme.answer query).1) : theme.value? color.name = some color.value := by
  cases query with
  | all =>
    rw [answer_all] at member
    cases table : theme.colorTable? with
    | none => simp [table] at member
    | some colors =>
      rw [table] at member
      simpa [value?, table] using
        ColorTable.lookup_of_mem_entries (regular.distinct colors table)
          (regular.undotted colors table).unambiguous member
  | one name => exact value?_of_mem_answer_one member

end Regular

end Theme

theorem Table.mem_of_mapM? {α β : Type} {read : α → Option β} {table : Table α} {converted : Table β}
    (all : Table.mapM? read table = some converted) {row : String × β} (member : row ∈ converted) :
    ∃ value, (row.1, value) ∈ table ∧ read value = some row.2 := by
  induction table generalizing converted with
  | nil =>
    cases all
    cases member
  | cons first table ih =>
    obtain ⟨name, value⟩ := first
    rw [Table.mapM?] at all
    split at all
    · rename_i head tail atHead atTail
      cases all
      rcases List.mem_cons.mp member with rfl | later
      · exact ⟨value, by simp, atHead⟩
      · obtain ⟨source, inside, found⟩ := ih atTail later
        exact ⟨source, List.mem_cons_of_mem _ inside, found⟩
    · cases all

/-- A color table that was read declares no name twice. -/
theorem ColorTable.ofJson?_distinct {json : Json} {table : ColorTable} (read : ofJson? json = some table) :
    table.Distinct := by
  cases json with
  | obj members =>
    simp only [ofJson?, Json.table?, Option.map_map, Option.map_eq_some_iff] at read
    obtain ⟨rows, converted, rfl⟩ := read
    refine ⟨Table.ofList_distinct rows, ?_⟩
    intro group inner member
    obtain ⟨value, _, found⟩ := Table.mem_of_mapM? converted (Table.mem_of_mem_ofList member)
    cases value with
    | obj content =>
      simp only [ColorEntry.ofJson?, Option.some.injEq, ColorEntry.group.injEq] at found
      rw [← found]
      exact Table.ofList_distinct _
    | _ => simp [ColorEntry.ofJson?] at found
  | _ => simp [ofJson?, Json.table?] at read

theorem colorFunctionResult_distinct {body : String} {table : ColorTable}
    (result : colorFunctionResult body = .ok table) : table.Distinct := by
  unfold colorFunctionResult at result
  split at result
  · rename_i found read
    cases result
    obtain ⟨json, _, converted⟩ := Option.bind_eq_some_iff.mp read
    exact ColorTable.ofJson?_distinct converted
  · cases result

namespace Theme

/-- The color sources that reading a config gives, with what later accesses make of them: none, a
table, or a function that gives one result whenever it is invoked. -/
inductive ReadSource : Option ColorSource → Prop where
  | absent : ReadSource none
  | table (known : ColorTable) (distinct : known.Distinct) : ReadSource (some (.table known))
  | function (result : Except ThemeError ColorTable) (distinct : ∀ table, result = .ok table → table.Distinct)
      (calls : Nat) (failed : Bool) : ReadSource (some (.function ⟨fun _ => result, calls, failed⟩))

theorem invoke_constant (result : Except ThemeError ColorTable) (calls : Nat) (failed : Bool) :
    ColorFunction.invoke ⟨fun _ => result, calls, failed⟩ =
      (if failed then none else result.toOption,
        ⟨fun _ => result, if failed then calls else calls + 1, failed || !result.toOption.isSome⟩) := by
  cases failed <;> cases result <;> rfl

namespace ReadSource

theorem accessed {theme : Theme} (read : ReadSource theme.colors) :
    ReadSource theme.accessed.colors ∧ theme.accessed.colorTable? = theme.colorTable? := by
  generalize source : theme.colors = colors at read
  cases read with
  | absent =>
    have same : theme.accessed = theme := by simp [Theme.accessed, resolveColors, source]
    rw [same, source]
    exact ⟨.absent, rfl⟩
  | table known distinct =>
    have same : theme.accessed.colors = some (.table known) := by
      simp [Theme.accessed, resolveColors, source, ColorSource.resolve]
    rw [same]
    exact ⟨.table known distinct, by simp [colorTable?, resolveColors, same, source, ColorSource.resolve]⟩
  | function result distinct calls failed =>
    have called : theme.accessed.colors = some (.function ⟨fun _ => result,
        if failed then calls else calls + 1, failed || !result.toOption.isSome⟩) := by
      simp only [Theme.accessed, resolveColors, source, ColorSource.resolve, invoke_constant]
    rw [called]
    refine ⟨.function result distinct _ _, ?_⟩
    simp only [colorTable?, resolveColors, called, source, ColorSource.resolve, invoke_constant]
    cases failed <;> cases result <;> rfl

theorem steady {theme : Theme} (read : ReadSource theme.colors) : theme.Steady := by
  intro count
  induction count generalizing theme with
  | zero => rfl
  | succ count ih =>
    obtain ⟨next, same⟩ := read.accessed
    rw [Function.iterate_succ_apply, ih next, same]

theorem distinct {theme : Theme} (read : ReadSource theme.colors) : theme.Distinct := by
  intro table found
  generalize source : theme.colors = colors at read
  cases read with
  | absent => simp [colorTable?, resolveColors, source] at found
  | table known distinct =>
    simp only [colorTable?, resolveColors, source, ColorSource.resolve, Option.some.injEq] at found
    rw [← found]
    exact distinct
  | function result distinct calls failed =>
    simp only [colorTable?, resolveColors, source, ColorSource.resolve, invoke_constant] at found
    refine distinct table ?_
    cases failed <;> cases result <;> simp_all [Except.toOption]

theorem orElse {source fallback : Option ColorSource} (read : ReadSource source) (other : ReadSource fallback) :
    ReadSource (source <|> fallback) := by
  cases source with
  | none => exact other
  | some given => exact read

end ReadSource

def ofTable (table : ColorTable) : Theme :=
  { empty with colors := some (.table table) }

theorem ofTable_regular {table : ColorTable} (distinct : table.Distinct) (undotted : table.Undotted) :
    (ofTable table).Regular where
  steady := (ReadSource.table table distinct).steady
  distinct := (ReadSource.table table distinct).distinct
  undotted := by
    intro found same
    cases same
    exact undotted

theorem readSource_ofSection (colors : Option Json) :
    ReadSource (section? (fun json => (ColorTable.ofJson? json).map (some ∘ ColorSource.table)) none colors) := by
  unfold section?
  split
  · exact .absent
  · exact .absent
  · rename_i json _
    cases read : ColorTable.ofJson? json with
    | none => simpa [read] using ReadSource.absent
    | some table => simpa [read] using ReadSource.table table (ColorTable.ofJson?_distinct read)

theorem readSource_ofJson {source : Option ColorSource} (read : ReadSource source) (theme : Option Json) :
    ReadSource (ofJson source theme).colors := by
  unfold ofJson
  split
  · exact read.orElse (readSource_ofSection _)
  · exact read.orElse (readSource_ofSection none)

/-- Loading inlines the script, reads what comes out and takes the theme of it. -/
theorem ofScript_ok {script : String} {theme : Theme} (loaded : ofScript script = .ok theme) :
    ∃ inlined json exported, Script.inline script = .ok inlined ∧ Json.parseRelaxed? inlined.source = some json ∧
      exportedTheme? json = some exported ∧ theme = ofJson inlined.colorSource? exported := by
  unfold ofScript at loaded
  split at loaded
  next => cases loaded
  next inlined isInlined =>
    split at loaded
    next => cases loaded
    next exported found =>
      obtain ⟨json, read, isExported⟩ := Option.bind_eq_some_iff.mp found
      cases loaded
      exact ⟨inlined, json, exported, isInlined, read, isExported, rfl⟩

theorem readSource_ofScript {script : String} {theme : Theme} (read : ofScript script = .ok theme) :
    ReadSource theme.colors := by
  obtain ⟨inlined, json, exported, _, _, _, rfl⟩ := ofScript_ok read
  refine readSource_ofJson ?_ exported
  unfold Script.Inlined.colorSource?
  cases inlined.thunk? "theme.colors" with
  | none => exact .absent
  | some thunk => exact .function _ (fun _ => colorFunctionResult_distinct) 0 false

/-- A theme that was read from a script is regular, unless it has a dot in a name. -/
theorem ofScript_regular {script : String} {theme : Theme} (read : ofScript script = .ok theme)
    (undotted : theme.Undotted) : theme.Regular :=
  ⟨(readSource_ofScript read).steady, (readSource_ofScript read).distinct, undotted⟩

end Theme

end ThemeSense
