import ThemeSense.Proofs.Script.Meaning
import ThemeSense.Proofs.Split

namespace ThemeSense.Script

open Json Json.Relaxed

/-- The properties of an object in their order. -/
def Members.rows : Members → List (Key × Value)
  | .done _ => []
  | .last _ head value _ => [(head.key, value)]
  | .next _ head value _ rest => (head.key, value) :: rest.rows

theorem Members.thunks_eq (members : Members) (path : List String) :
    members.thunks path = members.rows.flatMap fun row => row.2.thunks path (some (String.ofList row.1.name)) := by
  cases members with
  | done _ => rfl
  | last _ head value _ => simp [Members.thunks, Members.rows]
  | next _ head value _ rest => simp [Members.thunks, Members.rows, rest.thunks_eq path]

theorem Members.isClear_of_mem {members : Members} (clear : members.isClear = true) {row : Key × Value}
    (member : row ∈ members.rows) : row.2.isClear = true := by
  match members with
  | .done _ => cases member
  | .last _ head value _ =>
    simp only [Members.isClear, Bool.and_eq_true] at clear
    rw [List.mem_singleton.mp member]
    exact clear.1.2
  | .next _ head value _ rest =>
    simp only [Members.isClear, Bool.and_eq_true] at clear
    rcases List.mem_cons.mp member with rfl | later
    · exact clear.1.1.2
    · exact isClear_of_mem clear.2 later

/-- Every property of an object that can be read is one of the document. -/
theorem Members.mem_json {members : Members} {read : List (String × Json)} (found : members.json? = some read)
    {row : Key × Value} (member : row ∈ members.rows) :
    ∃ name json, row.1.value? = some name ∧ row.2.json? = some json ∧ (name, json) ∈ read := by
  match members with
  | .done _ => cases member
  | .last _ head value _ =>
    rw [List.mem_singleton.mp member]
    obtain ⟨name, key, found⟩ := Option.bind_eq_some_iff.mp found
    obtain ⟨json, value, rfl⟩ := Option.map_eq_some_iff.mp found
    exact ⟨name, json, key, value, by simp⟩
  | .next _ head value _ rest =>
    obtain ⟨name, key, found⟩ := Option.bind_eq_some_iff.mp found
    obtain ⟨json, value, found⟩ := Option.bind_eq_some_iff.mp found
    obtain ⟨others, behind, rfl⟩ := Option.map_eq_some_iff.mp found
    rcases List.mem_cons.mp member with rfl | later
    · exact ⟨name, json, key, value, by simp⟩
    · obtain ⟨name, json, key, value, inside⟩ := mem_json behind later
      exact ⟨name, json, key, value, List.mem_cons_of_mem _ inside⟩

/-- The text of what a function returns. -/
def Value.body? : Value → Option (List Char)
  | .function _ before result after => some (before.text ++ Piece.allInlined result.pieces ++ after.text)
  | .listFunction _ items => some ('[' :: (Piece.allInlined items.pieces ++ [']']))
  | _ => none

theorem Value.parse_body {value : Value} (clear : value.isClear = true) {body : List Char}
    (function : value.body? = some body) : parseRelaxed? (String.ofList body) = value.json? := by
  match value with
  | .function _ before result after =>
    simp only [Value.isClear, Bool.and_eq_true] at clear
    cases function
    exact result.parse clear.1.2 clear.1.1 clear.2
  | .listFunction _ items =>
    cases function
    have noTrivia : Trivia.isClear [] = true := rfl
    simpa [Value.pieces, Piece.inlined, Value.json?] using (Value.array items).parse clear noTrivia noTrivia

/-- The value of a property is recorded after all functions inside it. -/
theorem Value.thunks_some (value : Value) (path : List String) (key : String) :
    value.thunks path (some key) =
      value.thunks (path ++ [key]) none ++
        (value.body?.map fun body => ⟨".".intercalate (path ++ [key]), String.ofList body⟩).toList := by
  cases value <;> simp [Value.thunks, Value.body?, record]

/-- A function is recorded under a path that goes on from `path`. -/
def Thunk.Inside (thunk : Thunk) (path : List String) : Prop :=
  ∃ names, names ≠ [] ∧ thunk.key = ".".intercalate (path ++ names)

theorem Thunk.Inside.outer {thunk : Thunk} {path more : List String} (inside : thunk.Inside (path ++ more)) :
    thunk.Inside path := by
  obtain ⟨names, some, key⟩ := inside
  exact ⟨more ++ names, by simp [some], by rw [key, List.append_assoc]⟩

theorem inside_of_mem_record {thunk : Thunk} {path : List String} {key : Option String} {body : List Char}
    (member : thunk ∈ record path key body) : thunk.Inside path := by
  cases key with
  | none => cases member
  | some key =>
    obtain rfl := List.mem_singleton.mp member
    exact ⟨[key], by simp, rfl⟩

mutual

theorem Value.inside_of_mem (value : Value) {path : List String} {key : Option String} {thunk : Thunk}
    (member : thunk ∈ value.thunks path key) : thunk.Inside path := by
  match value with
  | .scalar _ => cases member
  | .array items => exact (items.inside_of_mem member).outer
  | .object members => exact (members.inside_of_mem member).outer
  | .function _ before result after =>
    rcases List.mem_append.mp member with within | own
    · exact (result.inside_of_mem within).outer
    · exact inside_of_mem_record own
  | .listFunction _ items =>
    rcases List.mem_append.mp member with within | own
    · exact (items.inside_of_mem within).outer
    · exact inside_of_mem_record own

theorem Items.inside_of_mem (items : Items) {path : List String} {thunk : Thunk}
    (member : thunk ∈ items.thunks path) : thunk.Inside path := by
  match items with
  | .done _ => cases member
  | .last _ value _ => exact value.inside_of_mem member
  | .next _ value _ rest =>
    rcases List.mem_append.mp member with first | later
    · exact value.inside_of_mem first
    · exact rest.inside_of_mem later

theorem Members.inside_of_mem (members : Members) {path : List String} {thunk : Thunk}
    (member : thunk ∈ members.thunks path) : thunk.Inside path := by
  match members with
  | .done _ => cases member
  | .last _ head value _ => exact value.inside_of_mem member
  | .next _ head value _ rest =>
    rcases List.mem_append.mp member with first | later
    · exact value.inside_of_mem first
    · exact rest.inside_of_mem later

end

/-- A value that is no array has functions inside it only if it is an object or returns one. -/
theorem Value.thunks_of_json? (value : Value) {json : Json} (read : value.json? = some json)
    (noArray : ∀ items, json ≠ .arr items) :
    (∀ path, value.thunks path none = []) ∨
      ∃ (members : Members) (rows : List (String × Json)), json = .obj rows ∧ members.json? = some rows ∧
        (value.isClear = true → members.isClear = true) ∧ ∀ path, value.thunks path none = members.thunks path := by
  match value with
  | .scalar _ => exact .inl fun _ => rfl
  | .array items | .listFunction _ items =>
    obtain ⟨list, _, rfl⟩ := Option.map_eq_some_iff.mp read
    exact absurd rfl (noArray list)
  | .object members =>
    obtain ⟨rows, found, rfl⟩ := Option.map_eq_some_iff.mp read
    exact .inr ⟨members, rows, rfl, found, id, fun path => by simp [Value.thunks]⟩
  | .function head before result after =>
    have same (path : List String) :
        (Value.function head before result after).thunks path none = result.thunks path none := by
      simp [Value.thunks, record]
    have returned : result.json? = some json := read
    rcases result.thunks_of_json? returned noArray with nothing | ⟨members, rows, isObject, found, clear, inside⟩
    · exact .inl fun path => (same path).trans (nothing path)
    · refine .inr ⟨members, rows, isObject, found, fun whole => clear ?_, fun path => (same path).trans (inside path)⟩
      simp only [Value.isClear, Bool.and_eq_true] at whole
      exact whole.1.2

/-- The characters that need no escape in a string, whatever its quotes. -/
def isBareChar (c : Char) : Bool :=
  c != '\\' && c != '\'' && c != '"' && !isLineEnd c

/-- A key is the name that it stands for, if there is nothing in it to be escaped. -/
theorem Key.value?_of_name {key : Key} {name : String} (named : String.ofList key.name = name)
    (bare : name.toList.all isBareChar = true) : key.value? = some name := by
  cases key with
  | plain chars _ _ => exact congrArg some named
  | quoted string =>
    have content : string.content = name.toList := by
      rw [← named]
      exact String.toList_ofList.symm
    have read : string? string.quote none (string.content ++ [string.quote]) =
        some (string.content, string.content.length + 1) := by
      refine string?_plain string.isQuote (fun c member => ?_) []
      have isBare := List.all_eq_true.mp bare c (content ▸ member)
      simp only [isBareChar, Bool.and_eq_true, bne_iff_ne, Bool.not_eq_true'] at isBare
      obtain ⟨⟨⟨noEscape, noSingle⟩, noDouble⟩, inLine⟩ := isBare
      refine ⟨noEscape, ?_, inLine⟩
      rcases string.isQuote with isQuote | isQuote
      · exact isQuote ▸ noSingle
      · exact isQuote ▸ noDouble
    rw [Key.value?, Quoted.value?, read]
    exact congrArg some named

/-- A function inside an object is the value of one of its properties, and its record is read as that
value, or it stands inside the value of one. -/
theorem Members.row_of_thunk {members : Members} (clear : members.isClear = true) {path : List String} {thunk : Thunk}
    (member : thunk ∈ members.thunks path) :
    ∃ row ∈ members.rows,
      thunk.key = ".".intercalate (path ++ [String.ofList row.1.name]) ∧ parseRelaxed? thunk.body = row.2.json? ∨
        thunk ∈ row.2.thunks (path ++ [String.ofList row.1.name]) none := by
  rw [members.thunks_eq, List.mem_flatMap] at member
  obtain ⟨row, inside, member⟩ := member
  refine ⟨row, inside, ?_⟩
  rw [Value.thunks_some, List.mem_append] at member
  rcases member with within | own
  · exact .inr within
  · rw [Option.mem_toList, Option.map_eq_some_iff] at own
    obtain ⟨body, function, rfl⟩ := own
    exact .inl ⟨rfl, Value.parse_body (Members.isClear_of_mem clear inside) function⟩

/-- A name without a dot that stands for itself in a string. -/
structure BareName (name : String) : Prop where
  bare : name.toList.all isBareChar = true
  noDot : '.' ∉ name.toList

theorem BareName.dotted {first second : String} (firstBare : BareName first) (secondBare : BareName second) :
    (first ++ "." ++ second).toList.all isBareChar = true := by
  have dot : isBareChar '.' = true := rfl
  simp [firstBare.bare, secondBare.bare, dot]

/-- A function that is recorded under a path of two names, and stands inside the property with the first
one, is the value of the property with the second one. -/
theorem Members.property_of_thunk {members : Members} (clear : members.isClear = true) {rows : List (String × Json)}
    (read : members.json? = some rows) {first second : String} (firstBare : BareName first)
    (secondBare : BareName second) {thunk : Thunk} (member : thunk ∈ members.thunks [first])
    (key : thunk.key = first ++ "." ++ second) :
    ∃ json, (second, json) ∈ rows ∧ parseRelaxed? thunk.body = some json := by
  have path {names : List String} (joined : thunk.key = ".".intercalate names) :=
    Text.intercalate_eq_pair firstBare.noDot secondBare.noDot (joined.symm.trans key)
  obtain ⟨row, inside, ⟨own, body⟩ | within⟩ := Members.row_of_thunk clear member
  · have named : String.ofList row.1.name = second := by
      rcases path own with same | same
      · simp at same
      · simpa using same
    obtain ⟨name, json, isName, isJson, inRows⟩ := members.mem_json read inside
    cases (Key.value?_of_name named secondBare.bare).symm.trans isName
    exact ⟨json, inRows, body.trans isJson⟩
  · obtain ⟨names, some, joined⟩ := row.2.inside_of_mem within
    rcases path joined with same | same <;> simp [some] at same

/-- A function that is recorded under a path of two names is the value at that path, unless a dot in a
name or an array makes another path look like it. -/
theorem Value.place_of_thunk {value : Value} {rows : List (String × Json)} (clear : value.isClear = true)
    (read : value.json? = some (.obj rows)) {first second : String} (firstBare : BareName first)
    (secondBare : BareName second) {thunk : Thunk} (member : thunk ∈ value.thunks [] none)
    (key : thunk.key = first ++ "." ++ second) :
    (∃ json, (first ++ "." ++ second, json) ∈ rows) ∨
      ∃ outer, (first, outer) ∈ rows ∧
        ((∃ items, outer = .arr items) ∨
          ∃ members inner, outer = .obj members ∧ (second, inner) ∈ members ∧
            parseRelaxed? thunk.body = some inner) := by
  have path {names : List String} (joined : thunk.key = ".".intercalate names) :=
    Text.intercalate_eq_pair firstBare.noDot secondBare.noDot (joined.symm.trans key)
  rcases value.thunks_of_json? read nofun with nothing | ⟨top, _, isObject, found, topClear, same⟩
  · simp [nothing] at member
  cases isObject
  rw [same] at member
  obtain ⟨row, inTop, ⟨own, _⟩ | within⟩ := Members.row_of_thunk (topClear clear) member <;>
    obtain ⟨name, outer, isName, outerRead, inRows⟩ := top.mem_json found inTop
  · -- the whole path is the name of one property
    have named : String.ofList row.1.name = first ++ "." ++ second := by
      rcases path own with same | same
      · simpa using same
      · simp at same
    cases (Key.value?_of_name named (firstBare.dotted secondBare)).symm.trans isName
    exact .inl ⟨outer, inRows⟩
  · obtain ⟨names, some, joined⟩ := row.2.inside_of_mem within
    have named : String.ofList row.1.name = first := by
      rcases path joined with same | same
      · simp [some] at same
      · exact (List.cons.inj same).1
    cases (Key.value?_of_name named firstBare.bare).symm.trans isName
    refine .inr ⟨outer, inRows, ?_⟩
    by_cases array : ∃ items, outer = .arr items
    · exact .inl array
    rcases row.2.thunks_of_json? outerRead (by simpa using array) with
      nothing | ⟨inside, members, rfl, insideRead, insideClear, same⟩
    · simp [nothing] at within
    rw [same, named] at within
    have rowClear := Members.isClear_of_mem (topClear clear) inTop
    obtain ⟨inner, property, body⟩ :=
      Members.property_of_thunk (insideClear rowClear) insideRead firstBare secondBare within key
    exact .inr ⟨members, inner, rfl, property, body⟩

end ThemeSense.Script
