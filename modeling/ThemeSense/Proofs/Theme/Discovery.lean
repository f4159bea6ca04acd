import ThemeSense.Proofs.Path
import ThemeSense.Theme.Discovery

namespace ThemeSense

theorem not_idle_of_configName {name : List Char} (member : name ∈ configNames) : Path.isIdle name = false := by
  have all : configNames.all (!Path.isIdle ·) = true := by decide
  simpa using List.all_eq_true.mp all name member

/-- A walk up comes to a directory if no boundary stands below it on the way. -/
def Reaches (boundary : Option Path) (start directory : Path) : Prop :=
  start.AtOrAbove directory ∧
    ∀ lower, start.AtOrAbove lower → lower.Above directory → boundary.any (·.sameAs lower) = false

theorem Reaches.refl (boundary : Option Path) (start : Path) : Reaches boundary start start :=
  ⟨.refl, fun _ above below => absurd below above.not_above⟩

theorem mem_directoriesUp {boundary : Option Path} {start directory : Path} :
    directory ∈ directoriesUp boundary start ↔ Reaches boundary start directory := by
  fun_induction directoriesUp boundary start with
  | case1 start atBoundary =>
    rw [List.mem_singleton]
    constructor
    · rintro rfl
      exact .refl boundary directory
    · rintro ⟨above, unbounded⟩
      rcases Path.atOrAbove_iff.mp above with same | strictly
      · exact same
      · rw [unbounded start .refl strictly] at atBoundary
        cases atBoundary
  | case2 start inside top =>
    rw [List.mem_singleton]
    constructor
    · rintro rfl
      exact .refl boundary directory
    · rintro ⟨above, _⟩
      rcases Path.atOrAbove_iff.mp above with same | strictly
      · exact same
      · obtain ⟨next, step, _⟩ := Path.above_iff.mp strictly
        rw [top] at step
        cases step
  | case3 start inside up step ih =>
    simp only [List.mem_cons, ih]
    constructor
    · rintro (rfl | ⟨above, unbounded⟩)
      · exact .refl boundary directory
      · refine ⟨.head step above, fun lower atLower below => ?_⟩
        rcases Path.atOrAbove_iff.mp atLower with rfl | strictly
        · simpa using inside
        · exact unbounded lower (Path.atOrAbove_of_parent? step strictly) below
    · rintro ⟨above, unbounded⟩
      rcases Path.atOrAbove_iff.mp above with same | strictly
      · exact .inl same
      · exact .inr ⟨Path.atOrAbove_of_parent? step strictly, fun lower atLower => unbounded lower (.head step atLower)⟩

theorem directoriesUp_pairwise (boundary : Option Path) (start : Path) :
    (directoriesUp boundary start).Pairwise Path.Above := by
  fun_induction directoriesUp boundary start with
  | case1 => exact List.pairwise_singleton _ _
  | case2 => exact List.pairwise_singleton _ _
  | case3 start inside up step ih =>
    refine List.pairwise_cons.mpr ⟨fun directory member => ?_, ih⟩
    exact Path.above_iff.mpr ⟨up, step, (mem_directoriesUp.mp member).1⟩

/-- The directories in which the config of a document is looked for before the roots. -/
def directoriesAbove (boundary : Option Path) (document : Path) : List Path :=
  (document.parent?.map (directoriesUp boundary)).getD []

theorem mem_directoriesAbove {boundary : Option Path} {document directory : Path} :
    directory ∈ directoriesAbove boundary document ↔ document.Above directory ∧
      ∀ lower, document.Above lower → lower.Above directory → boundary.any (·.sameAs lower) = false := by
  cases step : document.parent? with
  | none =>
    have top : ¬document.Above directory := fun above => by
      obtain ⟨next, step', _⟩ := Path.above_iff.mp above
      cases step.symm.trans step'
    simp [directoriesAbove, step, top]
  | some up =>
    have above_iff (other : Path) : document.Above other ↔ up.AtOrAbove other :=
      ⟨Path.atOrAbove_of_parent? step, fun above => Path.above_iff.mpr ⟨up, step, above⟩⟩
    simp only [directoriesAbove, step, Option.map_some, Option.getD_some, mem_directoriesUp, Reaches, above_iff]

theorem directoriesAbove_pairwise (boundary : Option Path) (document : Path) :
    (directoriesAbove boundary document).Pairwise Path.Above := by
  unfold directoriesAbove
  cases document.parent? with
  | none => exact .nil
  | some up => exact directoriesUp_pairwise boundary up

/-- A boundary on the way up bounds the way by its components. -/
theorem mem_directoriesAbove_of_liesIn {document root directory : Path} (inside : document.LiesIn root) :
    directory ∈ directoriesAbove (some root) document ↔ document.OnWayTo root directory := by
  obtain ⟨atRoot, aboveRoot, sameRoot⟩ := inside
  have boundary (lower : Path) : (some root).any (·.sameAs lower) = false ↔ root.components ≠ lower.components := by
    simp [Path.sameAs]
  simp only [mem_directoriesAbove, boundary, Path.OnWayTo, and_congr_right_iff]
  intro above
  constructor
  · intro unbounded
    -- The root and the directory are on one way up, so one of them is at or above the other.
    rcases aboveRoot.atOrAbove.total above.atOrAbove with beyond | within
    · rcases Path.atOrAbove_iff.mp beyond with rfl | strictly
      · exact sameRoot ▸ List.prefix_rfl
      · exact absurd sameRoot.symm (unbounded atRoot aboveRoot strictly)
    · rw [← sameRoot]
      exact within.begins
  · intro within lower _ below same
    have shorter := below.length_lt
    have bound := within.length_le
    rw [same] at bound
    omega

/-- A boundary that is not on the way up bounds nothing. -/
theorem mem_directoriesAbove_of_not_liesIn {document directory : Path} {boundary : Option Path}
    (outside : ∀ root ∈ boundary, ¬document.LiesIn root) :
    directory ∈ directoriesAbove boundary document ↔ document.Above directory := by
  rw [mem_directoriesAbove, and_iff_left_iff_imp]
  intro _ lower above _
  cases boundary with
  | none => rfl
  | some root =>
    have other : root.components ≠ lower.components := fun same => outside root rfl ⟨lower, above, same.symm⟩
    simpa [Path.sameAs] using other

section Innermost

variable {roots : List Path} {document : Path}

theorem innermostRoot?_concat_outside {root : Path} (outside : document.isWithin root = false) :
    innermostRoot? (roots ++ [root]) document = innermostRoot? roots document := by
  simp [innermostRoot?, List.filter_append, outside]

theorem innermostRoot?_concat_first {root : Path} (within : document.isWithin root = true)
    (none : innermostRoot? roots document = none) : innermostRoot? (roots ++ [root]) document = some root := by
  rw [innermostRoot?] at none
  simp [innermostRoot?, List.filter_append, List.foldl_append, within, none]

theorem innermostRoot?_concat_next {root best : Path} (within : document.isWithin root = true)
    (found : innermostRoot? roots document = some best) : innermostRoot? (roots ++ [root]) document =
      some (if best.components.length ≤ root.components.length then root else best) := by
  rw [innermostRoot?] at found
  simp only [innermostRoot?, List.filter_append, List.foldl_append, within, found, List.filter_cons_of_pos,
    List.filter_nil, List.foldl_cons, List.foldl_nil]
  split <;> rfl

/-- Of the roots that contain a document, one with the most components is taken. -/
theorem innermostRoot?_cases (roots : List Path) (document : Path) :
    (innermostRoot? roots document = none ∧ ∀ root ∈ roots, document.isWithin root = false) ∨
      ∃ best ∈ roots, innermostRoot? roots document = some best ∧ document.isWithin best = true ∧
        ∀ root ∈ roots, document.isWithin root = true → root.components.length ≤ best.components.length := by
  induction roots using List.reverseRecOn with
  | nil => exact .inl ⟨rfl, by simp⟩
  | append_singleton roots root ih =>
    simp only [List.forall_mem_append, List.forall_mem_singleton]
    cases within : document.isWithin root with
    | false =>
      rw [innermostRoot?_concat_outside within]
      rcases ih with ⟨none, absent⟩ | ⟨best, member, found, bestWithin, deepest⟩
      · exact .inl ⟨none, absent, rfl⟩
      · exact .inr ⟨best, List.mem_append_left _ member, found, bestWithin, deepest, by simp⟩
    | true =>
      rcases ih with ⟨none, absent⟩ | ⟨best, member, found, bestWithin, deepest⟩
      · refine .inr ⟨root, by simp, innermostRoot?_concat_first within none, within, ?_, fun _ => Nat.le_refl _⟩
        intro other inside otherWithin
        rw [absent other inside] at otherWithin
        cases otherWithin
      · have taken := innermostRoot?_concat_next within found
        by_cases longer : best.components.length ≤ root.components.length
        · rw [if_pos longer] at taken
          refine .inr ⟨root, by simp, taken, within, ?_, fun _ => Nat.le_refl _⟩
          intro other inside otherWithin
          have bound := deepest other inside otherWithin
          omega
        · rw [if_neg longer] at taken
          refine .inr ⟨best, List.mem_append_left _ member, taken, bestWithin, deepest, fun _ => ?_⟩
          omega

/-- The innermost of the roots in which a document lies. -/
structure IsInnermostRoot (roots : List Path) (document root : Path) : Prop where
  member : root ∈ roots
  contains : document.LiesIn root
  deepest : ∀ other ∈ roots, document.LiesIn other → other.components <+: root.components

theorem isInnermostRoot_of_liesIn (inside : ∃ root ∈ roots, document.LiesIn root)
    (noRoot : ∀ root ∈ roots, root.components ≠ document.components) :
    ∃ root, innermostRoot? roots document = some root ∧ IsInnermostRoot roots document root := by
  obtain ⟨first, atFirst, lies⟩ := inside
  have within {root : Path} (lies : document.LiesIn root) : document.isWithin root = true :=
    Path.isWithin_iff.mpr lies.begins
  rcases innermostRoot?_cases roots document with ⟨_, absent⟩ | ⟨best, member, found, bestWithin, deepest⟩
  · cases (within lies).symm.trans (absent first atFirst)
  · have beginning := Path.isWithin_iff.mp bestWithin
    have deeper {root : Path} (atRoot : root ∈ roots) (lies : document.LiesIn root) :
        root.components <+: best.components :=
      List.prefix_of_prefix_length_le lies.begins beginning (deepest root atRoot (within lies))
    -- The root that is taken is between the document and a root on the way up, so it is on the way too.
    have lower := deeper atFirst lies
    obtain ⟨up, above, same⟩ := lies
    rw [← same] at lower
    exact ⟨best, found, member, above.atOrAbove.liesIn lower beginning (noRoot best member), fun other => deeper⟩

end Innermost

namespace Disk

variable {disk : Disk} {roots : List Path} {directory document path : Path}

/-- The config of a directory: the file with the preferred name, or without it the file with the other name. -/
inductive HasConfig (disk : Disk) (directory : Path) : Path → Prop where
  | preferred (present : disk.isFile (directory.join "europa.config.js".toList) = true) :
      HasConfig disk directory (directory.join "europa.config.js".toList)
  | other (absent : disk.isFile (directory.join "europa.config.js".toList) = false)
      (present : disk.isFile (directory.join "europa.config.cjs".toList) = true) :
      HasConfig disk directory (directory.join "europa.config.cjs".toList)

theorem find?_pair {α : Type} {p : α → Bool} {first second found : α} : [first, second].find? p = some found ↔
    p first = true ∧ first = found ∨ p first = false ∧ p second = true ∧ second = found := by
  cases atFirst : p first <;> cases atSecond : p second <;> simp [atFirst, atSecond]

theorem configIn?_eq_some_iff : disk.configIn? directory = some path ↔ disk.HasConfig directory path := by
  have names : disk.configIn? directory = [directory.join "europa.config.js".toList,
      directory.join "europa.config.cjs".toList].find? disk.isFile := rfl
  rw [names, find?_pair]
  constructor
  · rintro (⟨present, rfl⟩ | ⟨absent, present, rfl⟩)
    · exact .preferred present
    · exact .other absent present
  · rintro (present | ⟨absent, present⟩)
    · exact .inl ⟨present, rfl⟩
    · exact .inr ⟨absent, present, rfl⟩

theorem configIn?_eq_none_iff : disk.configIn? directory = none ↔ ∀ path, ¬disk.HasConfig directory path := by
  simp only [← configIn?_eq_some_iff, Option.eq_none_iff_forall_not_mem, Option.mem_def]

/-- A config stands directly in its directory. -/
theorem HasConfig.components (config : disk.HasConfig directory path) :
    ∃ name ∈ configNames, path.components = directory.components ++ [name] := by
  have entry {name : List Char} (member : name ∈ configNames) :
      (directory.join name).components = directory.components ++ [name] :=
    directory.components_join (not_idle_of_configName member)
  cases config with
  | preferred => exact ⟨_, by simp [configNames], entry (by simp [configNames])⟩
  | other => exact ⟨_, by simp [configNames], entry (by simp [configNames])⟩

/-- The config that governs: that of the nearest directory on the way that has one, or else that of the first
root that has one. -/
inductive Governing (disk : Disk) (onTheWay : Path → Prop) (roots : List Path) : Option Path → Prop where
  | nearest {directory path : Path} (way : onTheWay directory) (config : disk.HasConfig directory path)
      (first : ∀ nearer, onTheWay nearer → nearer.Above directory → ∀ other, ¬disk.HasConfig nearer other) :
      Governing disk onTheWay roots (some path)
  | ofRoot {before after : List Path} {root path : Path}
      (empty : ∀ directory, onTheWay directory → ∀ other, ¬disk.HasConfig directory other)
      (order : roots = before ++ root :: after) (config : disk.HasConfig root path)
      (first : ∀ earlier ∈ before, ∀ other, ¬disk.HasConfig earlier other) : Governing disk onTheWay roots (some path)
  | absent (empty : ∀ directory, onTheWay directory → ∀ other, ¬disk.HasConfig directory other)
      (noRoot : ∀ root ∈ roots, ∀ other, ¬disk.HasConfig root other) : Governing disk onTheWay roots none

/-- A search through directories in the order of the way up, and then through the roots, finds what governs. -/
theorem governing_of_search {onTheWay : Path → Prop} {directories : List Path}
    (members : ∀ directory, directory ∈ directories ↔ onTheWay directory)
    (upwards : directories.Pairwise Path.Above) (roots : List Path) : disk.Governing onTheWay roots
      ((directories.findSome? disk.configIn?).or (roots.findSome? disk.configIn?)) := by
  cases found : directories.findSome? disk.configIn? with
  | some path =>
    obtain ⟨before, directory, after, rfl, config, earlier⟩ := List.findSome?_eq_some_iff.mp found
    refine .nearest ((members directory).mp (by simp)) (configIn?_eq_some_iff.mp config) ?_
    intro nearer way below
    -- What the search has not come to is at or above the directory found.
    rcases List.mem_append.mp ((members nearer).mpr way) with first | later
    · exact configIn?_eq_none_iff.mp (earlier nearer first)
    · have atOrAbove : directory.AtOrAbove nearer := by
        rcases List.mem_cons.mp later with same | beyond
        · exact Path.atOrAbove_iff.mpr (.inl same)
        · have ordered := (List.pairwise_append.mp upwards).2.1
          exact ((List.pairwise_cons.mp ordered).1 nearer beyond).atOrAbove
      exact absurd below atOrAbove.not_above
  | none =>
    have none (directory : Path) (way : onTheWay directory) : ∀ other, ¬disk.HasConfig directory other :=
      configIn?_eq_none_iff.mp (List.findSome?_eq_none_iff.mp found directory ((members directory).mpr way))
    rw [Option.none_or]
    cases fallback : roots.findSome? disk.configIn? with
    | some path =>
      obtain ⟨before, root, after, order, config, earlier⟩ := List.findSome?_eq_some_iff.mp fallback
      exact .ofRoot none order (configIn?_eq_some_iff.mp config) fun root inside =>
        configIn?_eq_none_iff.mp (earlier root inside)
    | none => exact .absent none fun root inside =>
        configIn?_eq_none_iff.mp (List.findSome?_eq_none_iff.mp fallback root inside)

theorem Governing.directly_inside {onTheWay : Path → Prop} (governing : disk.Governing onTheWay roots (some path)) :
    ∃ directory, (onTheWay directory ∨ directory ∈ roots) ∧
      ∃ name ∈ configNames, path.components = directory.components ++ [name] := by
  cases governing with
  | nearest way config => exact ⟨_, .inl way, config.components⟩
  | ofRoot _ order config => exact ⟨_, .inr (by simp [order]), config.components⟩

theorem configFor?_eq (disk : Disk) (roots : List Path) (document : Path) : disk.configFor? roots document =
    ((directoriesAbove (innermostRoot? roots document) document).findSome? disk.configIn?).or
      (roots.findSome? disk.configIn?) := by
  rw [configFor?, configsFor, List.find?_append, List.find?_flatMap, directoriesAbove]
  cases document.parent? with
  | none => rfl
  | some up =>
    rw [Option.map_some, Option.getD_some, configsFrom, List.find?_flatMap]
    rfl

/-- A walk up, turn by turn: it ends with a config, at the boundary, or where there is nothing above. -/
inductive WalksUp (disk : Disk) (boundary : Option Path) : Path → Nat → Option Path → Prop where
  | found {directory path : Path} (config : disk.HasConfig directory path) :
      WalksUp disk boundary directory 1 (some path)
  | stopped {directory : Path} (empty : ∀ path, ¬disk.HasConfig directory path)
      (atBoundary : boundary.any (·.sameAs directory) = true) : WalksUp disk boundary directory 1 none
  | top {directory : Path} (empty : ∀ path, ¬disk.HasConfig directory path)
      (inside : boundary.any (·.sameAs directory) = false) (nothing : directory.parent? = none) :
      WalksUp disk boundary directory 1 none
  | up {directory next : Path} {turns : Nat} {result : Option Path} (empty : ∀ path, ¬disk.HasConfig directory path)
      (inside : boundary.any (·.sameAs directory) = false) (step : directory.parent? = some next)
      (rest : WalksUp disk boundary next turns result) : WalksUp disk boundary directory (turns + 1) result

theorem configFrom?_eq (disk : Disk) (boundary : Option Path) (start : Path) :
    disk.configFrom? boundary start = (directoriesUp boundary start).findSome? disk.configIn? := by
  rw [configFrom?, configsFrom, List.find?_flatMap]
  rfl

/-- The walk ends, after no more turns than the path has components and one. -/
theorem walksUp_configFrom? (disk : Disk) (boundary : Option Path) (start : Path) :
    ∃ turns ≤ start.components.length + 1, disk.WalksUp boundary start turns (disk.configFrom? boundary start) := by
  rw [configFrom?_eq]
  fun_induction directoriesUp boundary start with
  | case1 start atBoundary =>
    refine ⟨1, by omega, ?_⟩
    cases config : disk.configIn? start with
    | some path => simpa [config] using .found (configIn?_eq_some_iff.mp config)
    | none => simpa [config] using .stopped (configIn?_eq_none_iff.mp config) atBoundary
  | case2 start inside top =>
    refine ⟨1, by omega, ?_⟩
    cases config : disk.configIn? start with
    | some path => simpa [config] using .found (configIn?_eq_some_iff.mp config)
    | none => simpa [config] using .top (configIn?_eq_none_iff.mp config) (by simpa using inside) top
  | case3 start inside up step ih =>
    obtain ⟨turns, bound, walk⟩ := ih
    obtain ⟨name, longer⟩ := Path.components_of_parent? step
    have length : start.components.length = up.components.length + 1 := by rw [longer, List.length_append]; rfl
    cases config : disk.configIn? start with
    | some path => exact ⟨1, by omega, by simpa [config] using .found (configIn?_eq_some_iff.mp config)⟩
    | none =>
      refine ⟨turns + 1, by omega, ?_⟩
      rw [List.findSome?_cons_of_isNone (by rw [config]; rfl)]
      exact .up (configIn?_eq_none_iff.mp config) (by simpa using inside) step walk

/-- The config found for a document is the one that governs it. If the document lies in a root and is none
itself, that is the config of the nearest directory up to the innermost root around it, or else of the first root
that has one, and it stands directly in one of these. If the document lies in no root, the directories up to the
last one are searched before the roots. A walk up ends whatever the boundary is. -/
theorem configFor?_governing (disk : Disk) (roots : List Path) (document : Path) :
    ((∃ root ∈ roots, document.LiesIn root) → (∀ root ∈ roots, root.components ≠ document.components) →
      ∃ root, IsInnermostRoot roots document root ∧
        disk.Governing (document.OnWayTo root) roots (disk.configFor? roots document) ∧
        ∀ path, disk.configFor? roots document = some path →
          ∃ directory, (document.OnWayTo root directory ∨ directory ∈ roots) ∧
            ∃ name ∈ configNames, path.components = directory.components ++ [name]) ∧
      ((∀ root ∈ roots, ¬document.LiesIn root) →
        disk.Governing document.Above roots (disk.configFor? roots document) ∧
        ∃ top, document.AtOrAbove top ∧ top.components = document.origin) ∧
      ∀ boundary start, ∃ turns ≤ start.components.length + 1,
        disk.WalksUp boundary start turns (disk.configFrom? boundary start) := by
  refine ⟨fun inside noRoot => ?_, fun outside => ?_, disk.walksUp_configFrom?⟩
  · obtain ⟨root, found, innermost⟩ := isInnermostRoot_of_liesIn inside noRoot
    have governing : disk.Governing (document.OnWayTo root) roots (disk.configFor? roots document) := by
      rw [configFor?_eq, found]
      exact governing_of_search (fun directory => mem_directoriesAbove_of_liesIn innermost.contains)
        (directoriesAbove_pairwise (some root) document) roots
    refine ⟨root, innermost, governing, fun path isPath => ?_⟩
    rw [isPath] at governing
    exact governing.directly_inside
  · have unbounded : ∀ root ∈ innermostRoot? roots document, ¬document.LiesIn root := by
      intro root chosen
      rcases innermostRoot?_cases roots document with ⟨none, _⟩ | ⟨best, member, found, _⟩
      · cases none.symm.trans chosen
      · cases found.symm.trans chosen
        exact outside root member
    refine ⟨?_, document.exists_origin⟩
    rw [configFor?_eq]
    exact governing_of_search (fun directory => mem_directoriesAbove_of_not_liesIn unbounded)
      (directoriesAbove_pairwise _ document) roots

/-- Of two configs on the way the nearer one governs, though it has the other name. A document outside the
roots is governed by the first root that has a config. -/
theorem configFor?_governing_between_roots :
    let roots := [Path.ofText "/w//", Path.ofText "/w/app"]
    let document := Path.ofText "/w/app/src/a.css"
    let stray := Path.ofText "/y/a.css"
    let disk := ((FileTree.empty.write ["w".toList, "app".toList, "europa.config.js".toList] "".toUTF8).write
      ["w".toList, "app".toList, "src".toList, "europa.config.cjs".toList] "".toUTF8).disk []
    (∃ root ∈ roots, document.LiesIn root) ∧ (∀ root ∈ roots, root.components ≠ document.components) ∧
      (∀ root ∈ roots, ¬stray.LiesIn root) ∧
      (∃ root, IsInnermostRoot roots document root ∧
        disk.Governing (document.OnWayTo root) roots (some (Path.ofText "/w/app/src/europa.config.cjs"))) ∧
      disk.Governing stray.Above roots (some (Path.ofText "/w/app/europa.config.js")) := by
  intro roots document stray disk
  have rooted : ∀ root ∈ roots, root.rooted = true := by decide
  have inside : ∃ root ∈ roots, document.LiesIn root := by
    refine ⟨Path.ofText "/w/app", by decide, ?_⟩
    rw [Path.liesIn_iff (.inl rfl)]
    decide
  have noRoot : ∀ root ∈ roots, root.components ≠ document.components := by decide
  have outside : ∀ root ∈ roots, ¬stray.LiesIn root := by
    intro root member lies
    have within := ((Path.liesIn_iff (.inl (rooted root member))).mp lies).1
    have apart : ∀ root ∈ roots, stray.isWithin root = false := by decide
    cases within.symm.trans (apart root member)
  obtain ⟨root, innermost, governing, _⟩ := (configFor?_governing disk roots document).1 inside noRoot
  have found : disk.configFor? roots document = some (Path.ofText "/w/app/src/europa.config.cjs") := by decide +kernel
  have fallback : disk.configFor? roots stray = some (Path.ofText "/w/app/europa.config.js") := by decide +kernel
  have governs := ((configFor?_governing disk roots stray).2.1 outside).1
  rw [found] at governing
  rw [fallback] at governs
  exact ⟨inside, noRoot, outside, ⟨root, innermost, governing⟩, governs⟩

end Disk

end ThemeSense
