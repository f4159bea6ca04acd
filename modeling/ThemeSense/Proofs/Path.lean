import Mathlib.Logic.Relation
import ThemeSense.Proofs.Disk

namespace ThemeSense.Path

/-- A path is one component longer than its parent. -/
theorem components_of_parent? {path up : Path} (above : path.parent? = some up) :
    ∃ name, path.components = up.components ++ [name] := by
  simp only [parent?] at above
  split at above
  · rename_i empty
    split at above
    · cases above
    · rename_i dotted
      cases above
      rcases path.dot_cases with ⟨relative, _, dot⟩ | ⟨dot, _⟩
      · have noNames : path.body.filter (!isIdle ·) = [] := by
          rw [← filter_dropIdle, List.isEmpty_iff.mp empty, List.filter_nil]
        refine ⟨['.'], ?_⟩
        rw [components, relative, dot, noNames]
        rfl
      · simp [dot] at dotted
  · rename_i stepped
    cases above
    have nonempty : dropIdle path.body ≠ [] := by simpa using stepped
    obtain ⟨front, name, body⟩ := (List.eq_nil_or_concat (dropIdle path.body)).resolve_left nonempty
    rw [List.concat_eq_append] at body
    have named : isIdle name = false := not_idle_of_getLast? (by rw [body, List.getLast?_concat])
    -- The path and its parent are the paths to these pieces with and without the last name, up to idle pieces.
    have tidied : path.tidy = ⟨path.rooted, (path.dot ++ front) ++ [name]⟩ := by
      rw [tidy, body, List.append_assoc]
    have dot : dot ⟨path.rooted, path.dot ++ front⟩ = path.dot := by
      rw [← dot_concat path.rooted (path.dot ++ front) (ne_dot_of_not_idle named), ← tidied, dot_tidy]
    have parent : tidy ⟨path.rooted, path.dot ++ front⟩ = ⟨path.rooted, path.dot ++ dropIdle front⟩ := by
      rw [tidy, Path.body, dot, List.drop_left]
    refine ⟨name, ?_⟩
    rw [body, List.dropLast_concat, ← parent, components_tidy, ← components_concat path.rooted _ named, ← tidied,
      components_tidy]

/-- What is left of a path at the end of every way up. -/
def origin (path : Path) : List (List Char) :=
  if path.rooted then [['/']] else []

theorem origin_begins (path : Path) : path.origin <+: path.components := by
  rw [components, List.append_assoc]
  exact List.prefix_append _ _

theorem origin_of_parent? {path up : Path} (above : path.parent? = some up) : up.origin = path.origin := by
  simp only [parent?] at above
  split at above
  · split at above
    · cases above
    · rename_i dotted
      cases above
      rcases path.dot_cases with ⟨relative, _, _⟩ | ⟨dot, _⟩
      · simp [origin, relative]
      · simp [dot] at dotted
  · cases above
    rfl

/-- Only the root and the empty path have no parent. -/
theorem components_of_no_parent {path : Path} (top : path.parent? = none) : path.components = path.origin := by
  simp only [parent?] at top
  split at top
  · rename_i empty
    split at top
    · rename_i undotted
      have noNames : path.body.filter (!isIdle ·) = [] := by
        rw [← filter_dropIdle, List.isEmpty_iff.mp empty, List.filter_nil]
      rw [components, List.isEmpty_iff.mp undotted, noNames, List.append_nil, List.append_nil]
      rfl
    · cases top
  · cases top

/-- A directory above a path. -/
def Above (path up : Path) : Prop :=
  Relation.TransGen (fun low high : Path => low.parent? = some high) path up

/-- A path, or a directory above it. -/
def AtOrAbove (path up : Path) : Prop :=
  Relation.ReflTransGen (fun low high : Path => low.parent? = some high) path up

section Above

variable {path up other : Path}

theorem above_iff : path.Above up ↔ ∃ next, path.parent? = some next ∧ next.AtOrAbove up :=
  Relation.TransGen.head'_iff

theorem atOrAbove_iff : path.AtOrAbove up ↔ up = path ∨ path.Above up :=
  Relation.reflTransGen_iff_eq_or_transGen

theorem Above.atOrAbove (above : path.Above up) : path.AtOrAbove up :=
  atOrAbove_iff.mpr (.inr above)

theorem AtOrAbove.begins (above : path.AtOrAbove up) : up.components <+: path.components := by
  induction above with
  | refl => exact List.prefix_rfl
  | tail _ step ih =>
    obtain ⟨name, longer⟩ := components_of_parent? step
    rw [longer] at ih
    exact (List.prefix_append _ _).trans ih

/-- Going up makes a path shorter by at least one component. -/
theorem Above.length_lt (above : path.Above up) : up.components.length < path.components.length := by
  obtain ⟨next, step, rest⟩ := above_iff.mp above
  obtain ⟨name, longer⟩ := components_of_parent? step
  have bound := rest.begins.length_le
  rw [longer, List.length_append, List.length_singleton]
  omega

theorem AtOrAbove.not_above (above : path.AtOrAbove up) : ¬up.Above path := fun below =>
  absurd below.length_lt (Nat.not_lt.mpr above.begins.length_le)

/-- What is above a path is its parent or above its parent. -/
theorem atOrAbove_of_parent? {next : Path} (step : path.parent? = some next) (above : path.Above up) :
    next.AtOrAbove up := by
  obtain ⟨other, step', rest⟩ := above_iff.mp above
  cases step.symm.trans step'
  exact rest

/-- Of two directories above a path one is above the other. -/
theorem AtOrAbove.total (first : path.AtOrAbove up) (second : path.AtOrAbove other) :
    up.AtOrAbove other ∨ other.AtOrAbove up :=
  Relation.ReflTransGen.total_of_right_unique (fun _ _ _ one two => Option.some.inj (one.symm.trans two)) first second

/-- The way up passes every length, so it passes every beginning of the path that is longer than one passed. -/
theorem AtOrAbove.exists_between (above : path.AtOrAbove up) {components : List (List Char)}
    (lower : up.components <+: components) (upper : components <+: path.components) :
    ∃ directory, path.AtOrAbove directory ∧ directory.components = components := by
  induction above using Relation.ReflTransGen.head_induction_on with
  | refl => exact ⟨up, .refl, lower.eq_of_length_le upper.length_le⟩
  | head step rest ih =>
    obtain ⟨name, longer⟩ := components_of_parent? step
    rw [longer, List.prefix_concat_iff] at upper
    rcases upper with whole | shorter
    · exact ⟨_, .refl, longer.trans whole.symm⟩
    · obtain ⟨directory, higher, same⟩ := ih shorter
      exact ⟨directory, .head step higher, same⟩

/-- Every way up ends at the root of the file system, or for a relative path at the empty path. -/
theorem exists_origin (path : Path) : ∃ top, path.AtOrAbove top ∧ top.components = path.origin := by
  cases step : path.parent? with
  | none => exact ⟨path, .refl, components_of_no_parent step⟩
  | some up =>
    have shorter := parent?_length_lt step
    obtain ⟨top, above, last⟩ := exists_origin up
    exact ⟨top, .head step above, last.trans (origin_of_parent? step)⟩
termination_by path.pieces.length

/-- A path lies in a directory that is above it, however the directory is written. -/
def LiesIn (path directory : Path) : Prop :=
  ∃ up, path.Above up ∧ up.components = directory.components

/-- A directory on the way from a path up to a root, which itself is on the way. -/
def OnWayTo (path root directory : Path) : Prop :=
  path.Above directory ∧ root.components <+: directory.components

theorem LiesIn.begins {directory : Path} (inside : path.LiesIn directory) :
    directory.components <+: path.components := by
  obtain ⟨up, above, same⟩ := inside
  rw [← same]
  exact above.atOrAbove.begins

/-- The way up passes every directory between the path and one that it passes. -/
theorem AtOrAbove.liesIn {directory : Path} (above : path.AtOrAbove up) (lower : up.components <+: directory.components)
    (upper : directory.components <+: path.components) (other : directory.components ≠ path.components) :
    path.LiesIn directory := by
  obtain ⟨passed, atPassed, same⟩ := above.exists_between lower upper
  rcases atOrAbove_iff.mp atPassed with rfl | strictly
  · exact absurd same.symm other
  · exact ⟨passed, strictly, same⟩

theorem LiesIn.ne {directory : Path} (inside : path.LiesIn directory) : directory.components ≠ path.components := by
  obtain ⟨up, above, same⟩ := inside
  intro whole
  have shorter := above.length_lt
  rw [same, whole] at shorter
  omega

theorem isWithin_iff {directory : Path} : path.isWithin directory = true ↔ directory.components <+: path.components :=
  List.isPrefixOf_iff_prefix

/-- A path lies in what its components begin with. Of the empty path this holds only for relative paths. -/
theorem liesIn_iff {directory : Path} (alike : directory.rooted = true ∨ path.rooted = false) :
    path.LiesIn directory ↔ path.isWithin directory = true ∧ directory.components ≠ path.components := by
  rw [isWithin_iff]
  constructor
  · intro inside
    exact ⟨inside.begins, inside.ne⟩
  · rintro ⟨beginning, other⟩
    obtain ⟨top, above, last⟩ := path.exists_origin
    have lower : top.components <+: directory.components := by
      rw [last]
      rcases alike with rooted | relative
      · have start := directory.origin_begins
        rw [origin, if_pos rooted] at start
        unfold origin
        split
        · exact start
        · exact List.nil_prefix
      · simp [origin, relative]
    exact above.liesIn lower beginning other

end Above

end ThemeSense.Path
