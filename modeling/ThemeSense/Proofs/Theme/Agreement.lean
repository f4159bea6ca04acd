import ThemeSense.Proofs.Theme.Answers

namespace ThemeSense

namespace ColorTable

variable {table : ColorTable} {name value : String}

theorem mem_entries_of_value (row : (name, ColorEntry.value value) ∈ table.rows) :
    ⟨name, value⟩ ∈ table.entries := by
  rw [entries, List.mem_flatMap]
  exact ⟨_, row, by simp⟩

theorem mem_entries_of_member {group : String} {members : Table GroupMember}
    (row : (group, ColorEntry.group members) ∈ table.rows) (inside : (name, GroupMember.value value) ∈ members) :
    ⟨group ++ "." ++ name, value⟩ ∈ table.entries := by
  rw [entries, List.mem_flatMap]
  refine ⟨_, row, ?_⟩
  simp only [groupColors, List.mem_filterMap]
  exact ⟨_, inside, rfl⟩

theorem mem_of_member? {group : String} (found : table.member? group name = some value) :
    ∃ members, (group, ColorEntry.group members) ∈ table.rows ∧ (name, GroupMember.value value) ∈ members := by
  unfold member? at found
  split at found
  · rename_i members row
    obtain ⟨member, inside, color⟩ := Option.bind_eq_some_iff.mp found
    cases member with
    | nested content => cases color
    | value inner =>
      cases color
      exact ⟨members, Table.mem_of_get? row, Table.mem_of_get? inside⟩
  · cases found

/-- Whatever the names in a table, a color that is found is also listed. -/
theorem mem_entries_of_lookup (found : table.lookup name = some value) : ⟨name, value⟩ ∈ table.entries := by
  by_cases flat : ∃ color, table.rows.get? name = some (.value color)
  · obtain ⟨color, row⟩ := flat
    rw [lookup, row] at found
    cases found
    exact mem_entries_of_value (Table.mem_of_get? row)
  · rw [lookup_of_no_value (by simpa using flat)] at found
    split at found
    · rename_i group member pieces
      obtain ⟨members, row, inside⟩ := mem_of_member? found
      have named : name = String.ofList group ++ "." ++ String.ofList member := by
        rw [← String.toList_inj, Text.eq_of_split_pair pieces]
        simp
      rw [named]
      exact mem_entries_of_member row inside
    · cases found

/-- The dotted name of a color that is found through its group has no other dot. -/
theorem no_dot_of_lookup {group : String}
    (noValue : ∀ other, table.rows.get? (group ++ "." ++ name) ≠ some (.value other))
    (found : table.lookup (group ++ "." ++ name) = some value) : '.' ∉ group.toList ∧ '.' ∉ name.toList := by
  rw [lookup_of_no_value noValue] at found
  split at found
  · rename_i first second pieces
    have count := Text.length_split '.' (group ++ "." ++ name).toList
    rw [pieces] at count
    simp only [String.toList_append, List.count_append, List.length_cons, List.length_nil] at count
    have dot : ".".toList.count '.' = 1 := rfl
    exact ⟨List.count_eq_zero.mp (by omega), List.count_eq_zero.mp (by omega)⟩
  · cases found

theorem unambiguous_of_lookup
    (found : ∀ color ∈ table.entries, table.lookup color.name = some color.value) : table.Unambiguous := by
  intro group members name value row inside
  have atName := found _ (mem_entries_of_member row inside)
  by_cases flat : ∃ other, table.rows.get? (group ++ "." ++ name) = some (.value other)
  · obtain ⟨other, same⟩ := flat
    rw [lookup, same] at atName
    cases atName
    exact .inl same
  · have noValue : ∀ other, table.rows.get? (group ++ "." ++ name) ≠ some (.value other) := by simpa using flat
    exact .inr ⟨noValue, no_dot_of_lookup noValue atName⟩

/-- What a table lists is what it finds, exactly where no listed name leads to two colors or to none. -/
theorem entries_agree_iff (distinct : table.Distinct) :
    (∀ name value, ⟨name, value⟩ ∈ table.entries ↔ table.lookup name = some value) ↔ table.Unambiguous := by
  constructor
  · intro agree
    exact unambiguous_of_lookup fun color member => (agree color.name color.value).mp member
  · intro unambiguous name value
    exact ⟨lookup_of_mem_entries distinct unambiguous, mem_entries_of_lookup⟩

end ColorTable

namespace Theme

theorem answer_one_eq_iff (theme : Theme) (name value : String) :
    (theme.answer (.one name)).1 = [⟨name, value⟩] ↔ theme.value? name = some value := by
  rw [answer_one]
  cases theme.value? name <;> simp

theorem mem_answer_all {theme : Theme} {name value : String} (found : theme.value? name = some value) :
    ⟨name, value⟩ ∈ (theme.answer .all).1 := by
  obtain ⟨table, colors, atName⟩ := Option.bind_eq_some_iff.mp found
  rw [answer_all, colors]
  exact ColorTable.mem_entries_of_lookup atName

/-- A theme that is asked for one color answers with a color that it also gives when it is asked for
all. The two answers agree in every color, exactly where no listed name of its table leads to two
colors or to none. -/
theorem single_answers_agree_with_bulk (theme : Theme) (distinct : theme.Distinct) :
    (∀ name value, (theme.answer (.one name)).1 = [⟨name, value⟩] → ⟨name, value⟩ ∈ (theme.answer .all).1) ∧
      ((∀ name value, ⟨name, value⟩ ∈ (theme.answer .all).1 ↔ (theme.answer (.one name)).1 = [⟨name, value⟩]) ↔
        ∀ table, theme.colorTable? = some table → table.Unambiguous) := by
  simp only [answer_one_eq_iff]
  refine ⟨fun name value => mem_answer_all, ?_⟩
  cases colors : theme.colorTable? with
  | none => simp [answer_all, value?, colors]
  | some table => simpa [answer_all, value?, colors] using ColorTable.entries_agree_iff (distinct table colors)

/-- Dots do no harm outside groups, nor where a color and a member of a group share a name and a value. -/
theorem single_answers_agree_with_bulk_beside_dots :
    let theme := ofTable ⟨[("body.text", .value "#111"), ("body", .group [("text", .value "#111"),
      ("link", .nested .null)]), ("a.b.c", .value "#222")]⟩
    theme.Distinct ∧ ∀ name value,
      ⟨name, value⟩ ∈ (theme.answer .all).1 ↔ (theme.answer (.one name)).1 = [⟨name, value⟩] := by
  intro theme
  have distinct : theme.Distinct :=
    (ReadSource.table _ ⟨by simp [Table.names], by simp [Table.names]⟩).distinct
  refine ⟨distinct, (single_answers_agree_with_bulk theme distinct).2.mpr ?_⟩
  intro table same
  cases same
  intro group members name value row inside
  simp only [List.mem_cons, Prod.mk.injEq, reduceCtorEq, and_false, ColorEntry.group.injEq, List.not_mem_nil,
    false_or, or_false] at row
  obtain ⟨rfl, rfl⟩ := row
  simp only [List.mem_cons, Prod.mk.injEq, GroupMember.value.injEq, reduceCtorEq, and_false, List.not_mem_nil,
    or_false] at inside
  obtain ⟨rfl, rfl⟩ := inside
  exact .inl rfl

/-- A color whose name has a dot inside its group is listed and not found. A color in a group that
has the dotted name of another color is listed, and the other one found. -/
theorem listed_but_not_answered :
    (let theme := ofTable ⟨[("gray", .group [("0.5", .value "#eee")])]⟩
     theme.Distinct ∧ ⟨"gray.0.5", "#eee"⟩ ∈ (theme.answer .all).1 ∧ (theme.answer (.one "gray.0.5")).1 = []) ∧
    (let theme := ofTable ⟨[("g.x", .value "#111"), ("g", .group [("x", .value "#222")])]⟩
     theme.Distinct ∧ ⟨"g.x", "#222"⟩ ∈ (theme.answer .all).1 ∧
        (theme.answer (.one "g.x")).1 = [⟨"g.x", "#111"⟩]) := by
  refine ⟨⟨(ReadSource.table _ ⟨by simp [Table.names], by simp [Table.names]⟩).distinct, ?_⟩,
    (ReadSource.table _ ⟨by simp [Table.names], by simp [Table.names]⟩).distinct, ?_⟩ <;> decide +kernel

end Theme

end ThemeSense
