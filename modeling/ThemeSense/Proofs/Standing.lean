import Mathlib.Data.List.Forall2
import Mathlib.Data.List.Induction
import ThemeSense.Proofs.Table

namespace ThemeSense.Table

variable {α β : Type}

/-- What a list of declarations comes to: each name in the place of its first declaration, with the
value of its last one. -/
def standing (members : List (String × α)) : Table α :=
  (names members).eraseDups.filterMap fun name => (members.reverse.find? (·.1 = name)).map fun row => (name, row.2)

theorem names_insert (table : Table α) (key : String) (value : α) :
    (table.insert key value).names = if key ∈ table.names then table.names else table.names ++ [key] := by
  by_cases known : key ∈ table.names
  · rw [if_pos known]
    induction table with
    | nil => cases known
    | cons row table ih =>
      by_cases same : row.1 = key
      · simp [insert, names, same]
      · have later : key ∈ names table := by
          simpa [names, Ne.symm same] using known
        have tail := ih later
        simp only [names] at tail ⊢
        simp [insert, same, tail]
  · rw [if_neg known, insert_of_not_mem known]
    simp [names]

theorem ofList_concat (members : List (String × α)) (row : String × α) :
    ofList (members ++ [row]) = (ofList members).insert row.1 row.2 := by
  simp [ofList_eq, insertAll, List.foldl_append]

/-- The names of a table stand in the order in which they were first declared. -/
theorem names_ofList (members : List (String × α)) : (ofList members).names = (names members).eraseDups := by
  induction members using List.reverseRecOn with
  | nil => rfl
  | append_singleton members row ih =>
    have mentioned : row.1 ∈ (names members).eraseDups ↔ row.1 ∈ names members := List.mem_eraseDups
    have split : names (members ++ [row]) = names members ++ [row.1] := by simp [names]
    rw [ofList_concat, names_insert, ih, split, List.eraseDups_append]
    by_cases known : row.1 ∈ names members
    · simp [mentioned, known, List.removeAll]
    · simp [mentioned, known, List.removeAll, List.eraseDups_cons]

/-- A table without repeated names is made up of what is found under its names. -/
theorem eq_filterMap_names {table : Table α} (distinct : table.names.Nodup) :
    table = table.names.filterMap fun name => (table.get? name).map (name, ·) := by
  rw [names, List.filterMap_map]
  have found : table.filterMap ((fun name => (table.get? name).map (name, ·)) ∘ (·.1)) = table.filterMap some := by
    refine List.filterMap_congr fun row member => ?_
    simp [get?_of_mem distinct member]
  rw [found, List.filterMap_some]

theorem ofList_eq_standing (members : List (String × α)) : ofList members = standing members := by
  rw [eq_filterMap_names (ofList_distinct members), names_ofList, standing]
  refine List.filterMap_congr fun name _ => ?_
  rw [get?_ofList, Option.map_map]
  rfl

theorem standing_distinct (members : List (String × α)) : (standing members).names.Nodup := by
  rw [← ofList_eq_standing]
  exact ofList_distinct members

/-- Conversion keeps the rows and their names, and converts each value. -/
theorem mapM?_eq_some_iff {read : α → Option β} {table : Table α} {converted : Table β} :
    mapM? read table = some converted ↔
      List.Forall₂ (fun row result => row.1 = result.1 ∧ read row.2 = some result.2) table converted := by
  induction table generalizing converted with
  | nil => simp [mapM?, eq_comm]
  | cons row table ih =>
    constructor
    · intro all
      rw [mapM?] at all
      split at all
      · rename_i head tail atHead atTail
        cases all
        exact .cons ⟨rfl, atHead⟩ (ih.mp atTail)
      · cases all
    · intro all
      cases all with
      | cons atHead atTail =>
        rename_i result rest
        obtain ⟨name, value⟩ := atHead
        rw [mapM?, value, ih.mpr atTail, name]

theorem names_of_forall₂ {R : α → β → Prop} {table : Table α} {converted : Table β}
    (rows : List.Forall₂ (fun row result => row.1 = result.1 ∧ R row.2 result.2) table converted) :
    converted.names = table.names := by
  induction rows with
  | nil => rfl
  | cons head _ ih => exact congrArg₂ List.cons head.1.symm ih

end ThemeSense.Table
