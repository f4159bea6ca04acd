import ThemeSense.Table

namespace ThemeSense.Table

variable {α : Type}

theorem get?_insert (table : Table α) (key name : String) (value : α) :
    (table.insert key value).get? name = if key = name then some value else table.get? name := by
  induction table with
  | nil => rfl
  | cons row table ih =>
    obtain ⟨first, old⟩ := row
    by_cases same : first = key
    · subst first
      by_cases found : key = name <;> simp [insert, get?, found]
    · simp only [insert, same, if_false, get?, ih]
      by_cases found : first = name
      · subst first
        simp [Ne.symm same]
      · simp [found]

theorem mem_of_get? {table : Table α} {name : String} {value : α} (found : table.get? name = some value) :
    (name, value) ∈ table := by
  induction table with
  | nil => cases found
  | cons row table ih =>
    obtain ⟨first, old⟩ := row
    by_cases same : first = name
    · subst first
      simp only [get?, if_true, Option.some.injEq] at found
      simp [found]
    · simp only [get?, same, if_false] at found
      exact List.mem_cons_of_mem _ (ih found)

/-- Where names are distinct, every declaration is found under its name. -/
theorem get?_of_mem {table : Table α} (distinct : table.names.Nodup) {name : String} {value : α}
    (member : (name, value) ∈ table) : table.get? name = some value := by
  induction table with
  | nil => cases member
  | cons row table ih =>
    obtain ⟨first, old⟩ := row
    obtain ⟨unique, rest⟩ := List.nodup_cons.mp distinct
    rcases List.mem_cons.mp member with same | later
    · cases same
      simp [get?]
    · have different : first ≠ name := by
        rintro rfl
        exact unique (List.mem_map.mpr ⟨_, later, rfl⟩)
      simpa [get?, different] using ih rest later

theorem mem_insert {table : Table α} {key name : String} {value found : α}
    (member : (name, found) ∈ table.insert key value) : name = key ∧ found = value ∨ (name, found) ∈ table := by
  induction table with
  | nil => simpa [insert] using member
  | cons row table ih =>
    obtain ⟨first, old⟩ := row
    by_cases same : first = key
    · subst first
      simp only [insert, if_true, List.mem_cons, Prod.mk.injEq] at member ⊢
      exact member.imp_right .inr
    · simp only [insert, same, if_false, List.mem_cons] at member ⊢
      rcases member with head | tail
      · exact .inr (.inl head)
      · exact (ih tail).imp_right .inr

/-- The table that further declarations leave. -/
def insertAll (table : Table α) (members : List (String × α)) : Table α :=
  members.foldl (fun table row => table.insert row.1 row.2) table

theorem insertAll_cons (table : Table α) (row : String × α) (members : List (String × α)) :
    table.insertAll (row :: members) = (table.insert row.1 row.2).insertAll members := rfl

theorem ofList_eq (members : List (String × α)) : ofList members = insertAll [] members := rfl

theorem mem_insertAll {table : Table α} {members : List (String × α)} {row : String × α}
    (member : row ∈ table.insertAll members) : row ∈ members ∨ row ∈ table := by
  induction members generalizing table with
  | nil => exact .inr member
  | cons first members ih =>
    rcases ih member with later | early
    · exact .inl (List.mem_cons_of_mem _ later)
    · rcases mem_insert early with ⟨name, value⟩ | old
      · exact .inl (by simp [Prod.ext name value])
      · exact .inr old

theorem mem_of_mem_ofList {members : List (String × α)} {row : String × α} (member : row ∈ ofList members) :
    row ∈ members := by
  simpa using mem_insertAll member

theorem mem_names_insert (table : Table α) (key name : String) (value : α) :
    name ∈ (table.insert key value).names ↔ name = key ∨ name ∈ table.names := by
  induction table with
  | nil => simp [insert, names]
  | cons row table ih =>
    obtain ⟨first, old⟩ := row
    simp only [names] at ih ⊢
    by_cases same : first = key
    · subst first
      simp [insert]
    · simp [insert, same, ih, or_left_comm]

theorem insert_distinct {table : Table α} (distinct : table.names.Nodup) (key : String) (value : α) :
    (table.insert key value).names.Nodup := by
  induction table with
  | nil => simp [insert, names]
  | cons row table ih =>
    obtain ⟨first, old⟩ := row
    obtain ⟨unique, rest⟩ := List.nodup_cons.mp distinct
    by_cases same : first = key
    · simpa [insert, same, names] using distinct
    · have absent : first ∉ (insert table key value).names := by
        rw [mem_names_insert, not_or]
        exact ⟨same, unique⟩
      simpa [insert, same, names] using List.nodup_cons.mpr ⟨absent, ih rest⟩

theorem insertAll_distinct {table : Table α} (distinct : table.names.Nodup) (members : List (String × α)) :
    (table.insertAll members).names.Nodup := by
  induction members generalizing table with
  | nil => exact distinct
  | cons row members ih => exact ih (insert_distinct distinct row.1 row.2)

/-- A table that declarations leave names everything once. -/
theorem ofList_distinct (members : List (String × α)) : (ofList members).names.Nodup := by
  have distinct : (names ([] : Table α)).Nodup := List.nodup_nil
  exact insertAll_distinct distinct members

/-- Of several declarations of a name the last one holds. -/
theorem get?_insertAll (table : Table α) (members : List (String × α)) (name : String) :
    (table.insertAll members).get? name =
      ((members.reverse.find? (·.1 = name)).map (·.2)).or (table.get? name) := by
  induction members generalizing table with
  | nil => simp [insertAll]
  | cons row members ih =>
    rw [insertAll_cons, ih, get?_insert, List.reverse_cons, List.find?_append]
    cases members.reverse.find? (·.1 = name) with
    | some later => simp
    | none => by_cases same : row.1 = name <;> simp [same]

theorem get?_insertAll_of_mem {members : List (String × α)} (distinct : (names members).Nodup) (table : Table α)
    {row : String × α} (member : row ∈ members) : (table.insertAll members).get? row.1 = some row.2 := by
  induction members generalizing table with
  | nil => cases member
  | cons first members ih =>
    obtain ⟨unique, rest⟩ := List.nodup_cons.mp distinct
    rcases List.mem_cons.mp member with rfl | later
    · have noneLater : members.reverse.find? (·.1 = row.1) = none := by
        rw [List.find?_eq_none]
        intro other inside
        have known : other.1 ∈ names members := List.mem_map_of_mem (List.mem_reverse.mp inside)
        simpa using ne_of_mem_of_not_mem known unique
      rw [insertAll_cons, get?_insertAll, noneLater, get?_insert]
      simp
    · exact ih rest _ later

theorem get?_ofList (members : List (String × α)) (name : String) :
    (ofList members).get? name = (members.reverse.find? (·.1 = name)).map (·.2) := by
  rw [ofList_eq, get?_insertAll]
  simp [get?]

theorem insert_of_not_mem {table : Table α} {key : String} (absent : key ∉ table.names) (value : α) :
    table.insert key value = table ++ [(key, value)] := by
  induction table with
  | nil => rfl
  | cons row table ih =>
    obtain ⟨different, later⟩ := not_or.mp (mt List.mem_cons.mpr absent)
    simp [insert, Ne.symm different, ih later]

/-- What is declared already can be declared again. -/
theorem insert_of_get? {table : Table α} {key : String} {value : α} (found : table.get? key = some value) :
    table.insert key value = table := by
  induction table with
  | nil => cases found
  | cons row table ih =>
    obtain ⟨first, old⟩ := row
    by_cases same : first = key
    · simp only [get?, same, if_true, Option.some.injEq] at found
      simp [insert, same, found]
    · simp only [get?, same, if_false] at found
      simp [insert, same, ih found]

theorem insertAll_of_get? {table : Table α} {members : List (String × α)}
    (found : ∀ row ∈ members, table.get? row.1 = some row.2) : table.insertAll members = table := by
  induction members with
  | nil => rfl
  | cons row members ih =>
    obtain ⟨head, tail⟩ := List.forall_mem_cons.mp found
    rw [insertAll_cons, insert_of_get? head, ih tail]

/-- A declaration leaves the rows of other names where they are. -/
theorem getElem?_insert {table : Table α} {i : Nat} {row : String × α} (atRow : table[i]? = some row) {key : String}
    (other : row.1 ≠ key) (value : α) : (table.insert key value)[i]? = some row := by
  induction table generalizing i with
  | nil => simp at atRow
  | cons first table ih =>
    cases i with
    | zero =>
      have same : first = row := by simpa using atRow
      simp [insert, same, other]
    | succ i =>
      have tail : table[i]? = some row := by simpa using atRow
      by_cases same : first.1 = key
      · simpa [insert, same] using tail
      · simpa [insert, same] using ih tail

theorem getElem?_insertAll {table : Table α} {i : Nat} {row : String × α} (atRow : table[i]? = some row)
    {members : List (String × α)} (other : row.1 ∉ names members) : (table.insertAll members)[i]? = some row := by
  induction members generalizing table with
  | nil => exact atRow
  | cons first members ih =>
    have apart : row.1 ≠ first.1 ∧ row.1 ∉ names members := by simpa [names] using other
    exact ih (getElem?_insert atRow apart.1 first.2) apart.2

theorem filter_insert {keep : String → Bool} {key : String} (left : keep key = false) (table : Table α) (value : α) :
    (table.insert key value).filter (fun row => keep row.1) = table.filter fun row => keep row.1 := by
  induction table with
  | nil => simp [insert, left]
  | cons first table ih =>
    by_cases same : first.1 = key
    · simp [insert, same, left]
    · simp only [insert, same, if_false, List.filter_cons, ih]

/-- No rows are added but those that are declared. -/
theorem filter_insertAll {keep : String → Bool} {members : List (String × α)}
    (left : ∀ name ∈ names members, keep name = false) (table : Table α) :
    (table.insertAll members).filter (fun row => keep row.1) = table.filter fun row => keep row.1 := by
  induction members generalizing table with
  | nil => rfl
  | cons row members ih =>
    obtain ⟨head, tail⟩ := List.forall_mem_cons.mp left
    rw [insertAll_cons, ih tail, filter_insert head]

theorem insertAll_of_distinct {first table : Table α} (distinct : (names (first ++ table)).Nodup) :
    first.insertAll table = first ++ table := by
  induction table generalizing first with
  | nil => simp [insertAll]
  | cons row table ih =>
    have absent : row.1 ∉ first.names := by
      rw [names, List.map_append, List.nodup_append] at distinct
      exact fun inside => distinct.2.2 row.1 inside row.1 (by simp) rfl
    rw [insertAll_cons, insert_of_not_mem absent, ih (by simpa using distinct)]
    simp

theorem ofList_of_distinct {table : Table α} (distinct : table.names.Nodup) : ofList table = table :=
  insertAll_of_distinct distinct

theorem ofList_ofList (members : List (String × α)) : ofList (ofList members) = ofList members :=
  ofList_of_distinct (ofList_distinct members)

section Convert

variable {β : Type}

theorem insert_map (f : α → β) (table : Table α) (key : String) (value : α) :
    (table.insert key value).map (fun row => (row.1, f row.2)) =
      insert (table.map fun row => (row.1, f row.2)) key (f value) := by
  induction table with
  | nil => rfl
  | cons row table ih =>
    by_cases same : row.1 = key
    · simp [insert, same]
    · simp [insert, same, ih]

theorem insertAll_map (f : α → β) (table : Table α) (members : List (String × α)) :
    (table.insertAll members).map (fun row => (row.1, f row.2)) =
      insertAll (table.map fun row => (row.1, f row.2)) (members.map fun row => (row.1, f row.2)) := by
  induction members generalizing table with
  | nil => rfl
  | cons row members ih => rw [List.map_cons, insertAll_cons, insertAll_cons, ih, insert_map]

theorem ofList_map (f : α → β) (members : List (String × α)) :
    ofList (members.map fun row => (row.1, f row.2)) = (ofList members).map fun row => (row.1, f row.2) :=
  (insertAll_map f [] members).symm

theorem mapM?_isSome {read : α → Option β} {table : Table α} :
    (mapM? read table).isSome = true ↔ ∀ row ∈ table, (read row.2).isSome = true := by
  induction table with
  | nil => simp [mapM?]
  | cons row table ih =>
    rw [List.forall_mem_cons, ← ih, mapM?]
    cases read row.2 <;> cases mapM? read table <;> simp

/-- A change of the values that conversion does not see. -/
theorem mapM?_map {read : α → Option β} {f : α → α}
    (kept : ∀ value result, read value = some result → read (f value) = some result) {table : Table α}
    {converted : Table β} (all : mapM? read table = some converted) :
    mapM? read (table.map fun row => (row.1, f row.2)) = some converted := by
  induction table generalizing converted with
  | nil => exact all
  | cons row table ih =>
    rw [mapM?] at all
    split at all
    · rename_i head tail atHead atTail
      cases all
      simp [mapM?, kept _ _ atHead, ih atTail]
    · cases all

theorem mapM?_insert {read : α → Option β} {table : Table α} {converted : Table β}
    (all : mapM? read table = some converted) {value : α} {result : β} (found : read value = some result)
    (key : String) : mapM? read (table.insert key value) = some (converted.insert key result) := by
  induction table generalizing converted with
  | nil =>
    cases all
    simp [insert, mapM?, found]
  | cons row table ih =>
    rw [mapM?] at all
    split at all
    · rename_i head tail atHead atTail
      cases all
      by_cases same : row.1 = key
      · simp [insert, same, mapM?, found, atTail]
      · simp [insert, same, mapM?, atHead, ih atTail]
    · cases all

theorem mapM?_insertAll {read : α → Option β} {table : Table α} {rows : Table β} (before : mapM? read table = some rows)
    {members : List (String × α)} {converted : Table β} (all : mapM? read members = some converted) :
    mapM? read (table.insertAll members) = some (rows.insertAll converted) := by
  induction members generalizing table rows converted with
  | nil =>
    cases all
    exact before
  | cons row members ih =>
    rw [mapM?] at all
    split at all
    · rename_i head tail atHead atTail
      cases all
      exact ih (mapM?_insert before atHead row.1) atTail
    · cases all

/-- Where every declaration can be converted, so can those that hold. -/
theorem mapM?_ofList {read : α → Option β} {members : List (String × α)} {converted : Table β}
    (all : mapM? read members = some converted) : mapM? read (ofList members) = some (ofList converted) :=
  mapM?_insertAll rfl all

end Convert

end ThemeSense.Table
