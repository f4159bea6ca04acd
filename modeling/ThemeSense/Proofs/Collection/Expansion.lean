import Mathlib.Data.List.Infix
import Mathlib.Data.List.Nodup
import ThemeSense.Proofs.Collection.Writing

namespace ThemeSense

namespace Comparison

variable (comparison : Comparison) {index reference : Nat}

-- A comparison sees of two places only which one is earlier.
theorem holds_of_lt (earlier : index < reference) : comparison.holds index reference = comparison.holds 0 1 := by
  cases comparison <;> simp [holds] <;> omega

theorem holds_self (index : Nat) : comparison.holds index index = comparison.holds 0 0 := by
  cases comparison <;> simp [holds]

theorem holds_of_gt (later : reference < index) : comparison.holds index reference = comparison.holds 1 0 := by
  cases comparison <;> simp [holds] <;> omega

/-- What a comparison selects of an axis, by what is declared before the breakpoint and behind it. -/
def part (before : List String) (breakpoint : String) (after : List String) : Comparison → List String
  | .atLeast => breakpoint :: after
  | .atMost => before ++ [breakpoint]
  | .above => after
  | .below => before

end Comparison

namespace Collection

/-- A name stands on an axis once. -/
theorem once_of_distinct {before after : List String} {name : String} (distinct : (before ++ name :: after).Nodup) :
    name ∉ before ∧ name ∉ after := by
  rw [← not_or, ← List.mem_append]
  exact (List.nodup_cons.mp (List.nodup_middle.mp distinct)).1

section Compared

variable {comparison : Comparison} {breakpoint : String} {axis : List String}

theorem findIdx?_of_not_mem (absent : breakpoint ∉ axis) : axis.findIdx? (· = breakpoint) = none := by
  simpa [List.findIdx?_eq_none_iff] using fun name inside => ne_of_mem_of_not_mem inside absent

theorem compared_of_not_mem (absent : breakpoint ∉ axis) : compared comparison breakpoint axis = [] := by
  rw [compared, findIdx?_of_not_mem absent]

theorem compared_append {before : List String} (absent : breakpoint ∉ before) (after : List String) :
    compared comparison breakpoint (before ++ breakpoint :: after) = comparison.part before breakpoint after := by
  have place : (before ++ breakpoint :: after).findIdx? (· = breakpoint) = some before.length := by
    simp [List.findIdx?_append, findIdx?_of_not_mem absent, List.findIdx?_cons]
  have selected : compared comparison breakpoint (before ++ breakpoint :: after) =
      ((before ++ breakpoint :: after).zipIdx.filter fun row => comparison.holds row.2 before.length).map (·.1) := by
    rw [compared, place]
  have early : ∀ row ∈ before.zipIdx, comparison.holds row.2 before.length = comparison.holds 0 1 := by
    intro row inside
    exact comparison.holds_of_lt (by simpa using List.snd_lt_of_mem_zipIdx inside)
  have late : ∀ row ∈ after.zipIdx (before.length + 1),
      comparison.holds row.2 before.length = comparison.holds 1 0 := by
    intro row inside
    exact comparison.holds_of_gt (List.le_snd_of_mem_zipIdx inside)
  rw [selected, List.zipIdx_append, List.zipIdx_cons, Nat.zero_add, List.filter_append, List.filter_cons,
    List.filter_congr early, List.filter_congr late, comparison.holds_self]
  cases comparison <;> simp [Comparison.holds, Comparison.part]

end Compared

section Between

variable {first last : String} {names : List String}

theorem between_append {before : List String} (absent : first ∉ before) (rest : List String) :
    between first last false (before ++ rest) = between first last false rest := by
  induction before with
  | nil => rfl
  | cons name before ih =>
    obtain ⟨other, later⟩ := not_or.mp (mt List.mem_cons.mpr absent)
    simpa [between, Ne.symm other] using ih later

theorem between_of_not_mem (absent : first ∉ names) : between first last false names = [] := by
  have skipped : between first last false (names ++ []) = [] := between_append absent []
  rwa [List.append_nil] at skipped

theorem between_open (absent : first ∉ names) :
    between first last true names = names.take (names.idxOf last + 1) := by
  induction names with
  | nil => rfl
  | cons name names ih =>
    obtain ⟨_, later⟩ := not_or.mp (mt List.mem_cons.mpr absent)
    by_cases reached : name = last
    · simp [between, reached, between_of_not_mem later]
    · simp [between, reached, ih later]

/-- A range goes on from its first endpoint through `last`, and to the end of the axis if it does not meet `last`. -/
theorem between_from {before after : List String} (distinct : (before ++ first :: after).Nodup) :
    between first last false (before ++ first :: after) = (first :: after).take ((first :: after).idxOf last + 1) := by
  obtain ⟨absent, once⟩ := once_of_distinct distinct
  rw [between_append absent]
  by_cases same : first = last
  · -- The range is closed where it was opened, and `first` does not come again.
    subst same
    simp [between, between_of_not_mem once]
  · simp [between, same, between_open once]

end Between

/-- The breakpoints that are selected both by `>=first` and by `<=last`, in the order of the axis. -/
def meet (first last : String) (axis : List String) : List String :=
  axis.filter fun name => name ∈ expand (.compare .atLeast first) axis ∧ name ∈ expand (.compare .atMost last) axis

section Meet

variable {first last : String}

theorem take_idxOf_succ {middle : List String} (absent : last ∉ middle) (rest : List String) :
    (middle ++ last :: rest).take ((middle ++ last :: rest).idxOf last + 1) = middle ++ [last] := by
  rw [List.idxOf_append_of_notMem absent, List.idxOf_cons_self, Nat.add_zero, List.take_length_add_append]
  rfl

/-- Of what `<=last` selects, the meet is the part that `>=first` selects too. -/
theorem meet_append {before after : List String} (distinct : (before ++ last :: after).Nodup) :
    meet first last (before ++ last :: after) =
      (before ++ [last]).filter (· ∈ expand (.compare .atLeast first) (before ++ last :: after)) := by
  have upper : expand (.compare .atMost last) (before ++ last :: after) = before ++ [last] :=
    compared_append (once_of_distinct distinct).1 after
  have regrouped : before ++ last :: after = before ++ [last] ++ after := by simp
  have behind : ∀ name ∈ after, name ∉ before ++ [last] := fun name inside early =>
    (List.nodup_append.mp (regrouped ▸ distinct)).2.2 name early name inside rfl
  rw [meet, upper]
  generalize expand (.compare .atLeast first) (before ++ last :: after) = lower
  have late : after.filter (fun name => name ∈ lower ∧ name ∈ before ++ [last]) = [] := by
    rw [List.filter_eq_nil_iff]
    intro name inside
    rw [decide_eq_true_eq]
    exact fun both => behind name inside both.2
  rw [regrouped, List.filter_append, late, List.append_nil]
  exact List.filter_congr fun name inside => decide_eq_decide.mpr (and_iff_left inside)

/-- Where `last` is declared behind `first`, or is `first` itself. -/
theorem range_in_order {before middle rest tail : List String} (starts : middle ++ last :: rest = first :: tail)
    (distinct : (before ++ (middle ++ last :: rest)).Nodup) :
    expand (.range first last) (before ++ (middle ++ last :: rest)) = middle ++ [last] ∧
      meet first last (before ++ (middle ++ last :: rest)) = middle ++ [last] := by
  obtain ⟨_, tailDistinct, apart⟩ := List.nodup_append.mp distinct
  have distinct' : (before ++ first :: tail).Nodup := starts ▸ distinct
  constructor
  · rw [starts, expand, between_from distinct', ← starts, take_idxOf_succ (once_of_distinct tailDistinct).1]
  · have lower : expand (.compare .atLeast first) (before ++ (middle ++ last :: rest)) = middle ++ last :: rest := by
      rw [starts]
      exact compared_append (once_of_distinct distinct').1 tail
    have early : before.filter (· ∈ middle ++ last :: rest) = [] := by
      rw [List.filter_eq_nil_iff]
      intro name inside
      rw [decide_eq_true_eq]
      exact fun later => apart name inside name later rfl
    have kept : (middle ++ [last]).filter (· ∈ middle ++ last :: rest) = middle ++ [last] := by
      rw [List.filter_eq_self]
      intro name inside
      rw [decide_eq_true_eq, List.append_cons]
      exact List.mem_append_left rest inside
    rw [← List.append_assoc] at distinct lower ⊢
    rw [meet_append distinct, lower, List.append_assoc, List.filter_append, early, kept, List.nil_append]

/-- Where `last` is declared before `first`, a range goes on to the end of the axis. -/
theorem range_out_of_order {start more after : List String}
    (distinct : (start ++ last :: (more ++ first :: after)).Nodup) :
    expand (.range first last) (start ++ last :: (more ++ first :: after)) = first :: after ∧
      meet first last (start ++ last :: (more ++ first :: after)) = [] := by
  have regrouped : start ++ last :: (more ++ first :: after) = start ++ last :: more ++ first :: after := by simp
  have distinct' : (start ++ last :: more ++ first :: after).Nodup := regrouped ▸ distinct
  have apart := (List.nodup_append.mp distinct').2.2
  have passed : last ∉ first :: after := fun inside => apart last (by simp) last inside rfl
  constructor
  · rw [regrouped, expand, between_from distinct', List.idxOf_of_notMem passed, List.take_of_length_le (by simp)]
  · have lower : expand (.compare .atLeast first) (start ++ last :: (more ++ first :: after)) = first :: after := by
      rw [regrouped]
      exact compared_append (once_of_distinct distinct').1 after
    rw [meet_append distinct, lower, List.filter_eq_nil_iff]
    intro name inside
    rw [decide_eq_true_eq]
    refine fun later => apart name ?_ name later rfl
    rw [List.append_cons]
    exact List.mem_append_left more inside

end Meet

/-- A range is the meet of two comparisons exactly if its endpoints are given in the order of their declaration.
Otherwise nothing is selected by both comparisons, and yet the range has everything from its first endpoint on. -/
theorem range_is_meet_in_order {axis : List String} (distinct : axis.Nodup) {first last : String}
    (declared : first ∈ axis) (declared' : last ∈ axis) :
    (expand (.range first last) axis = meet first last axis ↔ axis.idxOf first ≤ axis.idxOf last) ∧
    (axis.idxOf last < axis.idxOf first → meet first last axis = [] ∧
      expand (.range first last) axis = expand (.compare .atLeast first) axis) := by
  obtain ⟨before, tail, rfl, absent⟩ := List.eq_append_cons_of_mem declared
  have place : (before ++ first :: tail).idxOf first = before.length := by
    rw [List.idxOf_append_of_notMem absent, List.idxOf_cons_self, Nat.add_zero]
  by_cases early : last ∈ before
  · have order : (before ++ first :: tail).idxOf last < before.length := by
      rw [List.idxOf_append_of_mem early]
      exact List.idxOf_lt_length_of_mem early
    have lower : expand (.compare .atLeast first) (before ++ first :: tail) = first :: tail :=
      compared_append absent tail
    obtain ⟨start, more, rfl⟩ := List.append_of_mem early
    have regrouped : start ++ last :: more ++ first :: tail = start ++ last :: (more ++ first :: tail) := by simp
    obtain ⟨range, none⟩ := range_out_of_order (regrouped ▸ distinct)
    rw [← regrouped] at range none
    rw [place, range, none, lower]
    exact ⟨by simpa using order, fun _ => ⟨rfl, rfl⟩⟩
  · have later : last ∈ first :: tail := (List.mem_append.mp declared').resolve_left early
    have order : before.length ≤ (before ++ first :: tail).idxOf last := by
      rw [List.idxOf_append_of_notMem early]
      exact Nat.le_add_right _ _
    obtain ⟨middle, rest, starts⟩ := List.append_of_mem later
    obtain ⟨range, common⟩ := range_in_order starts.symm (starts ▸ distinct)
    rw [← starts] at range common
    rw [place, range, common]
    exact ⟨iff_of_true rfl order, fun reversed => absurd order (Nat.not_le.mpr reversed)⟩

theorem range_is_meet_in_order_of_tablets :
    let axis := ["iphone", "mobile", "ipad_portrait", "ipad_landscape", "desktop_md"]
    axis.Nodup ∧ "mobile" ∈ axis ∧ "ipad_landscape" ∈ axis ∧ axis.idxOf "mobile" ≤ axis.idxOf "ipad_landscape" ∧
      expand (.range "mobile" "ipad_landscape") axis = meet "mobile" "ipad_landscape" axis := by
  intro axis
  have distinct : axis.Nodup := by decide
  have declared : "mobile" ∈ axis := by decide
  have declared' : "ipad_landscape" ∈ axis := by decide
  have order : axis.idxOf "mobile" ≤ axis.idxOf "ipad_landscape" := by decide
  exact ⟨distinct, declared, declared', order, (range_is_meet_in_order distinct declared declared').1.mpr order⟩

/-- With its endpoints the other way round, a range selects what `<=` does not select. -/
theorem reversed_range_runs_on :
    let axis := ["iphone", "mobile", "ipad_portrait", "ipad_landscape", "desktop_md"]
    axis.Nodup ∧ "ipad_portrait" ∈ axis ∧ "mobile" ∈ axis ∧
      expand (.range "ipad_portrait" "mobile") axis = ["ipad_portrait", "ipad_landscape", "desktop_md"] ∧
      meet "ipad_portrait" "mobile" axis = [] := by
  decide

section Runs

variable {axis : List String}

theorem compared_infix (comparison : Comparison) (breakpoint : String) (axis : List String) :
    compared comparison breakpoint axis <:+: axis := by
  by_cases declared : breakpoint ∈ axis
  · obtain ⟨before, after, rfl, absent⟩ := List.eq_append_cons_of_mem declared
    rw [compared_append absent]
    cases comparison with
    | atLeast => exact (List.suffix_append _ _).isInfix
    | atMost => exact ⟨[], after, by simp [Comparison.part]⟩
    | above => exact ⟨before ++ [breakpoint], [], by simp [Comparison.part]⟩
    | below => exact (List.prefix_append _ _).isInfix
  · rw [compared_of_not_mem declared]
    exact List.nil_infix

theorem between_infix (distinct : axis.Nodup) (first last : String) : between first last false axis <:+: axis := by
  by_cases declared : first ∈ axis
  · obtain ⟨before, after, rfl⟩ := List.append_of_mem declared
    rw [between_from distinct]
    exact (List.take_prefix _ _).isInfix.trans (List.suffix_append _ _).isInfix
  · rw [between_of_not_mem declared]
    exact List.nil_infix

theorem between_eq_nil_iff (distinct : axis.Nodup) {first last : String} :
    between first last false axis = [] ↔ first ∉ axis := by
  constructor
  · rintro empty declared
    obtain ⟨before, after, rfl⟩ := List.append_of_mem declared
    rw [between_from distinct, List.take_succ_cons] at empty
    cases empty
  · exact between_of_not_mem

/-- Every collection but a list selects breakpoints that follow each other on the axis. -/
theorem expand_infix (distinct : axis.Nodup) {collection : Collection}
    (noList : ∀ members, collection ≠ .list members) : collection.expand axis <:+: axis := by
  cases collection with
  | range first last => exact between_infix distinct first last
  | list members => exact absurd rfl (noList members)
  | compare comparison breakpoint => exact compared_infix comparison breakpoint axis
  | «alias» breakpoint =>
    rw [expand]
    split
    · rename_i declared
      obtain ⟨before, after, rfl⟩ := List.append_of_mem (List.contains_iff_mem.mp declared)
      exact ⟨before, after, by simp⟩
    · exact List.nil_infix

end Runs

/-- A text that is not a list selects breakpoints that follow each other on the axis, none if the name that it
starts from is not declared. The comparisons with a declared name cut the axis into two. -/
theorem expansions_follow_axis {axis : List String} (distinct : axis.Nodup) :
    (∀ text, (∀ members, parse text ≠ .list members) →
      (parse text).expand axis <:+: axis ∧ ((parse text).expand axis).Nodup ∧
      (∀ first last, parse text = .range first last → ((parse text).expand axis = [] ↔ first ∉ axis)) ∧
      (∀ comparison breakpoint, parse text = .compare comparison breakpoint → breakpoint ∉ axis →
        (parse text).expand axis = []) ∧
      (∀ breakpoint, parse text = .alias breakpoint → ((parse text).expand axis = [] ↔ breakpoint ∉ axis))) ∧
    ∀ name ∈ axis, Undivided name → Unpadded name → name.toList.head? ≠ some '=' →
      (parse ("<" ++ name)).expand axis ++ (parse (">=" ++ name)).expand axis = axis ∧
      (parse ("<=" ++ name)).expand axis ++ (parse (">" ++ name)).expand axis = axis := by
  constructor
  · intro text noList
    have inside := expand_infix distinct noList
    refine ⟨inside, inside.sublist.nodup distinct, ?_, ?_, ?_⟩
    · intro first last isRange
      rw [isRange]
      exact between_eq_nil_iff distinct
    · intro comparison breakpoint isComparison absent
      rw [isComparison]
      exact compared_of_not_mem absent
    · intro breakpoint isAlias
      rw [isAlias, expand]
      split <;> simp_all
  · intro name declared undivided unpadded short
    have read (comparison : Comparison) : parse (print (.compare comparison name)) = .compare comparison name :=
      parse_compare ⟨unpadded, undivided, fun _ => short⟩ (.refl name) (.refl _)
    obtain ⟨before, after, rfl, absent⟩ := List.eq_append_cons_of_mem declared
    have selects (comparison : Comparison) :
        (parse (print (.compare comparison name))).expand (before ++ name :: after) =
          comparison.part before name after := by
      rw [read]
      exact compared_append absent after
    constructor
    · calc _ = Comparison.below.part before name after ++ Comparison.atLeast.part before name after :=
            congrArg₂ (· ++ ·) (selects .below) (selects .atLeast)
        _ = before ++ name :: after := rfl
    · calc _ = Comparison.atMost.part before name after ++ Comparison.above.part before name after :=
            congrArg₂ (· ++ ·) (selects .atMost) (selects .above)
        _ = before ++ name :: after := by simp [Comparison.part]

/-- An axis with names that look like comparisons, and a symbol kept apart from such a name by a blank. -/
theorem expansions_follow_axis_beside_symbols :
    let axis := ["", "=x", "<b", "tv"]
    axis.Nodup ∧ parse " > =x" = .compare .above "=x" ∧ (parse " > =x").expand axis <:+: axis ∧
      "<b" ∈ axis ∧ Undivided "<b" ∧ Unpadded "<b" ∧ "<b".toList.head? ≠ some '=' ∧
      (parse ("<" ++ "<b")).expand axis ++ (parse (">=" ++ "<b")).expand axis = axis ∧
      (parse ("<=" ++ "<b")).expand axis ++ (parse (">" ++ "<b")).expand axis = axis := by
  intro axis
  have distinct : axis.Nodup := by decide
  have declared : "<b" ∈ axis := by decide
  have undivided : Undivided "<b" := by decide
  have unpadded : Unpadded "<b" := by decide
  have short : "<b".toList.head? ≠ some '=' := by decide
  have read : parse " > =x" = .compare .above "=x" := by decide
  have noList : ∀ members, parse " > =x" ≠ .list members := by simp [read]
  obtain ⟨runs, halves⟩ := expansions_follow_axis distinct
  exact ⟨distinct, read, (runs _ noList).1, declared, undivided, unpadded, short,
    halves _ declared undivided unpadded short⟩

end Collection

end ThemeSense
