import ThemeSense.ColorQuery
import ThemeSense.Proofs.Split
import ThemeSense.Proofs.Table

namespace ThemeSense

namespace ColorTable

/-- No name is declared twice, neither in the table nor in one of its groups. -/
structure Distinct (table : ColorTable) : Prop where
  names : table.rows.names.Nodup
  members : ∀ group members, (group, ColorEntry.group members) ∈ table.rows → members.names.Nodup

/-- No color, group or member of a group has a dot in its name. -/
structure Undotted (table : ColorTable) : Prop where
  names : ∀ row ∈ table.rows, '.' ∉ row.1.toList
  members : ∀ group members, (group, ColorEntry.group members) ∈ table.rows →
    ∀ row ∈ members, '.' ∉ row.1.toList

theorem mem_entries {table : ColorTable} {color : NamedValue} (member : color ∈ table.entries) :
    (color.name, ColorEntry.value color.value) ∈ table.rows ∨
      ∃ group members name, (group, ColorEntry.group members) ∈ table.rows ∧
        (name, GroupMember.value color.value) ∈ members ∧ color.name = group ++ "." ++ name := by
  simp only [entries, List.mem_flatMap] at member
  obtain ⟨⟨name, entry⟩, row, member⟩ := member
  cases entry with
  | value value =>
    rw [List.mem_singleton.mp member]
    exact .inl row
  | group members =>
    simp only [groupColors, List.mem_filterMap] at member
    obtain ⟨⟨inner, entry⟩, inside, found⟩ := member
    cases entry with
    | nested content => cases found
    | value value =>
      cases found
      exact .inr ⟨name, members, inner, row, inside, rfl⟩

/-- A listed name leads to one color: where the dotted name of a color in a group is also that of a
color outside groups, the two are equal, and where it is not, neither part of it has a dot. -/
def Unambiguous (table : ColorTable) : Prop :=
  ∀ group members name value, (group, ColorEntry.group members) ∈ table.rows →
    (name, GroupMember.value value) ∈ members →
    table.rows.get? (group ++ "." ++ name) = some (.value value) ∨
      (∀ other, table.rows.get? (group ++ "." ++ name) ≠ some (.value other)) ∧
        '.' ∉ group.toList ∧ '.' ∉ name.toList

theorem Undotted.unambiguous {table : ColorTable} (undotted : table.Undotted) : table.Unambiguous := by
  intro group members name value row inside
  refine .inr ⟨fun other found => ?_, undotted.names _ row, undotted.members group members row _ inside⟩
  exact undotted.names _ (Table.mem_of_get? found) (by simp)

/-- A name that is no color outside groups is looked up in a group. -/
theorem lookup_of_no_value {table : ColorTable} {name : String}
    (noValue : ∀ value, table.rows.get? name ≠ some (.value value)) :
    table.lookup name = match Text.split '.' name.toList with
      | [group, member] => table.member? (String.ofList group) (String.ofList member)
      | _ => none := by
  unfold lookup
  split
  · rename_i value found
    exact absurd found (noValue value)
  · rfl

theorem member?_of_mem {table : ColorTable} (distinct : table.Distinct) {group name value : String}
    {members : Table GroupMember} (row : (group, ColorEntry.group members) ∈ table.rows)
    (inside : (name, GroupMember.value value) ∈ members) : table.member? group name = some value := by
  rw [member?, Table.get?_of_mem distinct.names row]
  simp [Table.get?_of_mem (distinct.members group members row) inside, GroupMember.color?]

/-- A color that a table lists is found under the name by which it is listed. -/
theorem lookup_of_mem_entries {table : ColorTable} (distinct : table.Distinct) (unambiguous : table.Unambiguous)
    {color : NamedValue} (member : color ∈ table.entries) : table.lookup color.name = some color.value := by
  rcases mem_entries member with row | ⟨group, members, name, row, inside, named⟩
  · rw [lookup, Table.get?_of_mem distinct.names row]
  · rw [named]
    rcases unambiguous group members name color.value row inside with same | ⟨noValue, noDot, noInnerDot⟩
    · rw [lookup, same]
    · have pieces : Text.split '.' (group ++ "." ++ name).toList = [group.toList, name.toList] := by
        simpa [Text.split_of_not_mem noDot, Text.split_of_not_mem noInnerDot] using
          Text.split_append '.' group.toList name.toList
      rw [lookup_of_no_value noValue, pieces]
      simpa using member?_of_mem distinct row inside

end ColorTable

end ThemeSense
