import Mathlib.Data.List.Induction
import ThemeSense.Disk

namespace ThemeSense

namespace Path

theorem dropIdle_concat (pieces : List (List Char)) (piece : List Char) :
    dropIdle (pieces ++ [piece]) = if isIdle piece then dropIdle pieces else pieces ++ [piece] := by
  by_cases idle : isIdle piece <;> simp [dropIdle, idle]

theorem filter_dropIdle (pieces : List (List Char)) :
    (dropIdle pieces).filter (!isIdle ·) = pieces.filter (!isIdle ·) := by
  induction pieces using List.reverseRecOn with
  | nil => rfl
  | append_singleton pieces piece ih =>
    rw [dropIdle_concat]
    split
    · rename_i idle
      simp [ih, idle]
    · rfl

/-- What is left does not end with an idle piece. -/
theorem not_idle_of_getLast? {pieces : List (List Char)} {piece : List Char}
    (last : (dropIdle pieces).getLast? = some piece) : isIdle piece = false := by
  induction pieces using List.reverseRecOn with
  | nil => cases last
  | append_singleton pieces other ih =>
    rw [dropIdle_concat] at last
    split at last
    · exact ih last
    · rename_i named
      have same : other = piece := by simpa using last
      simpa [same] using named

theorem head_dropIdle {pieces : List (List Char)} {piece : List Char}
    (head : (dropIdle pieces).head? = some piece) : pieces.head? = some piece := by
  induction pieces using List.reverseRecOn with
  | nil => exact head
  | append_singleton pieces other ih =>
    rw [dropIdle_concat] at head
    split at head
    · rw [List.head?_append, ih head]
      rfl
    · exact head

theorem dot_append_body (path : Path) : path.dot ++ path.body = path.pieces := by
  obtain ⟨rooted, pieces⟩ := path
  unfold body dot
  split
  · cases pieces <;> simp_all
  · simp

/-- A piece that is not a dot does not make a relative path start with one. -/
theorem dot_concat (rooted : Bool) (pieces : List (List Char)) {piece : List Char} (notDot : piece ≠ ['.']) :
    dot ⟨rooted, pieces ++ [piece]⟩ = dot ⟨rooted, pieces⟩ := by
  cases pieces with
  | nil => simp [dot, notDot]
  | cons first rest => rfl

theorem body_concat (rooted : Bool) (pieces : List (List Char)) {piece : List Char} (notDot : piece ≠ ['.']) :
    body ⟨rooted, pieces ++ [piece]⟩ = body ⟨rooted, pieces⟩ ++ [piece] := by
  have bound : (dot ⟨rooted, pieces⟩).length ≤ pieces.length := dot_length_le ⟨rooted, pieces⟩
  rw [body, body, dot_concat rooted pieces notDot, List.drop_append_of_le_length bound]

/-- The path without idle pieces at its end. -/
def tidy (path : Path) : Path :=
  ⟨path.rooted, path.dot ++ dropIdle path.body⟩

theorem ne_dot_of_not_idle {name : List Char} (named : isIdle name = false) : name ≠ ['.'] := by
  rintro rfl
  cases named

theorem tidy_concat_nil (rooted : Bool) (pieces : List (List Char)) :
    tidy ⟨rooted, pieces ++ [[]]⟩ = tidy ⟨rooted, pieces⟩ := by
  have notDot : ([] : List Char) ≠ ['.'] := by simp
  have dropped : dropIdle (body ⟨rooted, pieces⟩ ++ [[]]) = dropIdle (body ⟨rooted, pieces⟩) := dropIdle_concat _ []
  simp only [tidy, dot_concat rooted pieces notDot, body_concat rooted pieces notDot, dropped]

/-- The entries of a directory are written one step behind the same pieces. -/
theorem join_front (path : Path) :
    ∃ front, (∀ name, path.join name = ⟨path.rooted, front ++ [name]⟩) ∧ tidy ⟨path.rooted, front⟩ = path.tidy := by
  obtain ⟨rooted, pieces⟩ := path
  cases last : pieces.getLast? with
  | none => exact ⟨pieces, fun name => by simp [join, last], rfl⟩
  | some piece =>
    cases piece with
    | cons c rest => exact ⟨pieces, fun name => by simp [join, last], rfl⟩
    | nil =>
      obtain ⟨front, rfl⟩ := List.getLast?_eq_some_iff.mp last
      exact ⟨front, fun name => by simp [join], (tidy_concat_nil rooted front).symm⟩

theorem parent?_join (path : Path) {name : List Char} (named : isIdle name = false) :
    (path.join name).parent? = some path.tidy := by
  obtain ⟨front, join, tidied⟩ := path.join_front
  have notDot := ne_dot_of_not_idle named
  rw [join, ← tidied]
  simp [parent?, tidy, dot_concat _ front notDot, body_concat _ front notDot, dropIdle_concat, named]

theorem dot_cases (path : Path) :
    path.rooted = false ∧ path.pieces.head? = some ['.'] ∧ path.dot = [['.']] ∨
      path.dot = [] ∧ (path.rooted = false → path.pieces.head? ≠ some ['.']) := by
  by_cases dotted : (!path.rooted && path.pieces.head? == some ['.']) = true
  · obtain ⟨relative, head⟩ : path.rooted = false ∧ path.pieces.head? = some ['.'] := by simpa using dotted
    exact .inl ⟨relative, head, if_pos dotted⟩
  · refine .inr ⟨if_neg dotted, fun relative head => dotted ?_⟩
    simp [relative, head]

theorem dot_tidy (path : Path) : path.tidy.dot = path.dot := by
  rcases path.dot_cases with ⟨relative, _, dot⟩ | ⟨dot, noDot⟩
  · have tidied : path.tidy = ⟨false, ['.'] :: dropIdle path.body⟩ := by rw [tidy, dot, relative]; rfl
    rw [tidied, dot]
    rfl
  · have tidied : path.tidy = ⟨path.rooted, dropIdle path.pieces⟩ := by simp [tidy, body, dot]
    rcases path.tidy.dot_cases with ⟨relative, head, _⟩ | ⟨undotted, _⟩
    · rw [tidied] at head
      exact absurd (head_dropIdle head) (noDot relative)
    · rw [undotted, dot]

theorem body_tidy (path : Path) : path.tidy.body = dropIdle path.body := by
  rw [body, dot_tidy]
  exact List.drop_left

theorem filter_tidy (path : Path) : path.tidy.pieces.filter (!isIdle ·) = path.pieces.filter (!isIdle ·) := by
  rw [← path.dot_append_body, tidy, List.filter_append, List.filter_append, filter_dropIdle]

theorem tidy_join (path : Path) (name : List Char) :
    path.tidy.join name = ⟨path.rooted, path.tidy.pieces ++ [name]⟩ := by
  have last : path.tidy.pieces.getLast? ≠ some [] := by
    intro empty
    rw [tidy, List.getLast?_append] at empty
    cases rest : (dropIdle path.body).getLast? with
    | some piece =>
      have named := not_idle_of_getLast? rest
      simp_all [isIdle]
    | none => rcases path.dot_cases with ⟨_, _, dot⟩ | ⟨dot, _⟩ <;> simp_all
  unfold join
  split
  · rename_i empty
    exact absurd empty last
  · rfl

theorem components_tidy (path : Path) : path.tidy.components = path.components := by
  have rooted : path.tidy.rooted = path.rooted := rfl
  simp only [components, rooted, dot_tidy, body_tidy, filter_dropIdle]

theorem components_concat (rooted : Bool) (front : List (List Char)) {name : List Char} (named : isIdle name = false) :
    components ⟨rooted, front ++ [name]⟩ = components ⟨rooted, front⟩ ++ [name] := by
  have notDot := ne_dot_of_not_idle named
  simp [components, dot_concat rooted front notDot, body_concat rooted front notDot, named]

/-- An entry of a directory is one component behind it. -/
theorem components_join (path : Path) {name : List Char} (named : isIdle name = false) :
    (path.join name).components = path.components ++ [name] := by
  obtain ⟨front, join, tidied⟩ := path.join_front
  rw [join, components_concat path.rooted front named, ← components_tidy ⟨path.rooted, front⟩, tidied, components_tidy]

/-- Nothing but the text of a path to an entry changes when its directory is written without idle
pieces at its end. -/
theorem components_tidy_join (path : Path) {name : List Char} (named : isIdle name = false) :
    (path.tidy.join name).components = (path.join name).components := by
  rw [components_join path.tidy named, components_join path named, components_tidy]

end Path

namespace Disk

/-- Empty pieces and dots in front of a name lead nowhere, so they make no difference to what is read. -/
def SkipsIdle (disk : Disk) : Prop :=
  ∀ rooted front other name, Path.isIdle name = false →
    front.filter (!Path.isIdle ·) = other.filter (!Path.isIdle ·) →
    disk ⟨rooted, front ++ [name]⟩ = disk ⟨rooted, other ++ [name]⟩

theorem SkipsIdle.tidy_join {disk : Disk} (skips : disk.SkipsIdle) (path : Path) {name : List Char}
    (named : Path.isIdle name = false) : disk (path.tidy.join name) = disk (path.join name) := by
  obtain ⟨front, join, tidied⟩ := path.join_front
  rw [path.tidy_join, join]
  refine skips path.rooted _ _ name named ?_
  rw [← tidied, Path.filter_tidy]

end Disk

namespace FileTree

variable (tree : FileTree)

theorem walk_idle {piece : List Char} (idle : Path.isIdle piece = true) (place : List (List Char))
    (next : List Char) (rest : List (List Char)) :
    tree.walk place (piece :: next :: rest) = tree.walk place (next :: rest) := by
  by_cases directory : tree.isDirectory place = true
  · rw [walk, if_pos directory, if_pos idle]
  · rw [walk, if_neg directory, walk, if_neg directory]

/-- On the way to a name only the other names count. -/
theorem walk_filter (place front : List (List Char)) (name : List Char) :
    tree.walk place (front ++ [name]) = tree.walk place (front.filter (!Path.isIdle ·) ++ [name]) := by
  induction front generalizing place with
  | nil => rfl
  | cons piece front ih =>
    cases idle : Path.isIdle piece with
    | true =>
      obtain ⟨next, rest, split⟩ := List.exists_cons_of_ne_nil (List.concat_ne_nil name front)
      rw [List.filter_cons_of_neg (by simp [idle]), ← ih, List.cons_append, split, walk_idle tree idle]
    | false =>
      rw [List.filter_cons_of_pos (by simp [idle]), List.cons_append, List.cons_append]
      simp only [walk, ih]

theorem disk_skipsIdle (workingDirectory : List (List Char)) : (tree.disk workingDirectory).SkipsIdle := by
  intro rooted front other name named same
  have nonempty (pieces : List (List Char)) : Path.isEmpty ⟨rooted, pieces ++ [name]⟩ = false := by
    have nameNonempty : name ≠ [] := by
      rintro rfl
      cases named
    cases pieces <;> simp [Path.isEmpty, nameNonempty]
  simp only [disk, nonempty]
  rw [walk_filter tree _ front, walk_filter tree _ other, same]

end FileTree

end ThemeSense
