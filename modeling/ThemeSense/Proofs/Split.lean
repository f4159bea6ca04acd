import ThemeSense.Text.Blank

namespace ThemeSense.Text

theorem split_of_not_mem {sep : Char} {piece : List Char} (whole : sep ∉ piece) :
    split sep piece = [piece] := by
  induction piece with
  | nil => rfl
  | cons c piece ih =>
    simp only [List.mem_cons, not_or] at whole
    simp [split, Ne.symm whole.1, ih whole.2]

theorem split_eq_splitOn (sep : Char) (cs : List Char) : split sep cs = cs.splitOn sep := by
  induction cs with
  | nil => rfl
  | cons c cs ih =>
    simp only [split, ih, List.splitOn, List.splitOnP_cons_eq_if_modifyHead, beq_iff_eq]
    cases pieces : List.splitOnP (· == sep) cs with
    | nil => exact absurd pieces (List.splitOnP_ne_nil _ _)
    | cons piece pieces => rfl

theorem split_append (sep : Char) (first rest : List Char) :
    split sep (first ++ sep :: rest) = split sep first ++ split sep rest := by
  simp only [split_eq_splitOn, List.splitOn]
  exact List.splitOnP_append_cons first rest (beq_self_eq_true sep)

theorem intercalate_split (sep : Char) (cs : List Char) : [sep].intercalate (split sep cs) = cs := by
  rw [split_eq_splitOn]
  exact List.intercalate_splitOn sep

theorem length_split (sep : Char) (cs : List Char) : (split sep cs).length = cs.count sep + 1 := by
  induction cs with
  | nil => rfl
  | cons c cs ih =>
    by_cases same : c = sep
    · simp [split, same, ih]
    · rw [List.count_cons_of_ne same, ← ih]
      cases cut : split sep cs with
      | nil => simp [cut] at ih
      | cons piece others => simp [split, same, cut]

theorem eq_of_split_pair {sep : Char} {cs first second : List Char} (pieces : split sep cs = [first, second]) :
    cs = first ++ sep :: second := by
  rw [← intercalate_split sep cs, pieces]
  simp [List.intercalate, List.intersperse]

theorem eq_of_split_single {sep : Char} {cs piece : List Char} (pieces : split sep cs = [piece]) : cs = piece := by
  rw [← intercalate_split sep cs, pieces]
  simp [List.intercalate]

theorem split_ne_nil (sep : Char) (cs : List Char) : split sep cs ≠ [] := by
  intro empty
  have length := length_split sep cs
  simp [empty] at length

theorem eq_of_one_separator {sep : Char} {left right first second : List Char} (noSep : sep ∉ first)
    (noSep' : sep ∉ second) (same : left ++ sep :: right = first ++ sep :: second) : left = first ∧ right = second := by
  have pieces := congrArg (split sep) same
  rw [split_append, split_append, split_of_not_mem noSep, split_of_not_mem noSep'] at pieces
  obtain ⟨piece, more, cut⟩ := List.exists_cons_of_ne_nil (split_ne_nil sep left)
  rw [cut, List.cons_append, List.singleton_append, List.cons.injEq, List.append_eq_singleton_iff] at pieces
  obtain ⟨rfl, ⟨rfl, behind⟩ | ⟨_, behind⟩⟩ := pieces
  · exact ⟨eq_of_split_single cut, eq_of_split_single behind⟩
  · exact absurd behind (split_ne_nil sep right)

/-- The pieces of a text are all of it but the separators. -/
theorem flatten_split (sep : Char) (cs : List Char) : (split sep cs).flatten = cs.filter (· ≠ sep) := by
  induction cs with
  | nil => rfl
  | cons c cs ih =>
    by_cases same : c = sep
    · simp [split, same, ih]
    · cases cut : split sep cs with
      | nil => exact absurd cut (split_ne_nil sep cs)
      | cons piece others =>
        rw [cut] at ih
        simpa [split, same, cut] using ih

theorem exists_mem_split {sep c : Char} {cs : List Char} :
    (∃ piece ∈ split sep cs, c ∈ piece) ↔ c ∈ cs ∧ c ≠ sep := by
  rw [← List.mem_flatten, flatten_split, List.mem_filter, decide_eq_true_eq]

/-- Pieces that are joined come apart again. -/
theorem split_intercalate {sep : Char} {pieces : List (List Char)} (nonempty : pieces ≠ [])
    (absent : ∀ piece ∈ pieces, sep ∉ piece) : split sep ([sep].intercalate pieces) = pieces := by
  rw [split_eq_splitOn]
  exact List.splitOn_intercalate sep absent nonempty

theorem cut?_of_not_mem {sep : Char} {cs : List Char} (absent : sep ∉ cs) : cut? sep cs = none := by
  induction cs with
  | nil => rfl
  | cons c cs ih =>
    simp only [List.mem_cons, not_or] at absent
    simp [cut?, Ne.symm absent.1, ih absent.2]

theorem cut?_append {sep : Char} {first : List Char} (absent : sep ∉ first) (rest : List Char) :
    cut? sep (first ++ sep :: rest) = some (first, rest) := by
  induction first with
  | nil => simp [cut?]
  | cons c first ih =>
    simp only [List.mem_cons, not_or] at absent
    simp [cut?, Ne.symm absent.1, ih absent.2]

/-- A name with one dot in it is a path of itself, or of what stands before and behind the dot. -/
theorem intercalate_eq_pair {names : List String} {first second : String} (noDot : '.' ∉ first.toList)
    (noDot' : '.' ∉ second.toList) (joined : ".".intercalate names = first ++ "." ++ second) :
    names = [first ++ "." ++ second] ∨ names = [first, second] := by
  have chars := congrArg String.toList joined
  simp only [String.toList_append] at chars
  match names with
  | [] => simp at chars
  | [name] =>
    rw [String.intercalate_singleton] at joined
    exact .inl (by rw [joined])
  | name :: next :: others =>
    rw [String.intercalate_cons_cons, String.toList_append, String.toList_append, List.append_assoc,
      List.append_assoc] at chars
    obtain ⟨isFirst, isSecond⟩ := eq_of_one_separator noDot noDot' chars
    cases others with
    | nil =>
      rw [String.intercalate_singleton] at isSecond
      exact .inr (by rw [String.toList_inj.mp isFirst, String.toList_inj.mp isSecond])
    | cons third others =>
      rw [← isSecond, String.intercalate_cons_cons] at noDot'
      simp at noDot'

end ThemeSense.Text
