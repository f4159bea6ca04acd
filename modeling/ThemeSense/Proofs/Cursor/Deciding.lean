import ThemeSense.Proofs.Cursor.Pieces

namespace ThemeSense

open Text

/-- A rule applies to a line prefix if some end of the prefix falls into the pieces of the rule. A rule that
is only for at-rule lines also needs an at sign before everything but blanks. -/
structure SlotRule.Applies (rule : SlotRule) (before : List Char) : Prop where
  pieces : ∃ front rest, before = front ++ rest ∧ Splits rule.pieces rest
  line : rule.atRuleLine = true → ∃ indent rest, before = indent ++ '@' :: rest ∧ ∀ c ∈ indent, isBlank c = true

theorem SlotRule.applies_iff {rule : SlotRule} {before : List Char} :
    rule.applies before = true ↔ rule.Applies before := by
  have line : (!rule.atRuleLine || decide ((trim before).head? = some '@')) = true ↔
      (rule.atRuleLine = true → ∃ indent rest, before = indent ++ '@' :: rest ∧ ∀ c ∈ indent, isBlank c = true) := by
    rw [← head?_trim (by decide)]
    cases rule.atRuleLine <;> simp
  rw [applies, Bool.and_eq_true, fitsEnd_iff, line]
  exact ⟨fun both => ⟨both.2, both.1⟩, fun rule => ⟨rule.line, rule.pieces⟩⟩

/-- The slot that is open at the end of a line prefix. Behind an at sign it is the name of an at-rule. Elsewhere
the first rule of the table that applies decides, and where none does, a blank line is open for an at-rule and
any other for nothing. -/
inductive Slot.Decided (before : List Char) : Slot → Prop
  | sign {front : List Char} (ends : before = front ++ ['@']) : Decided before .atRuleName
  | rule {earlier later : List SlotRule} {rule : SlotRule} (other : ∀ front, before ≠ front ++ ['@'])
      (table : SlotRule.all = earlier ++ rule :: later) (first : ∀ skipped ∈ earlier, ¬ skipped.Applies before)
      (applies : rule.Applies before) : Decided before rule.slot
  | blank (other : ∀ front, before ≠ front ++ ['@']) (none : ∀ rule ∈ SlotRule.all, ¬ rule.Applies before)
      (blank : ∀ c ∈ before, isBlank c = true) : Decided before .atRuleName
  | outside {c : Char} (other : ∀ front, before ≠ front ++ ['@'])
      (none : ∀ rule ∈ SlotRule.all, ¬ rule.Applies before) (inside : c ∈ before) (solid : isBlank c = false) :
      Decided before .outside

namespace Slot

variable {before : List Char}

theorem find?_rule {rule : SlotRule} : SlotRule.all.find? (SlotRule.applies before) = some rule ↔
    ∃ earlier later, SlotRule.all = earlier ++ rule :: later ∧ (∀ skipped ∈ earlier, ¬ skipped.Applies before) ∧
      rule.Applies before := by
  rw [List.find?_eq_some_iff_append, SlotRule.applies_iff]
  constructor
  · rintro ⟨applies, earlier, later, table, first⟩
    refine ⟨earlier, later, table, fun skipped member => ?_, applies⟩
    rw [← SlotRule.applies_iff]
    simpa using first skipped member
  · rintro ⟨earlier, later, table, first, applies⟩
    refine ⟨applies, earlier, later, table, fun skipped member => ?_⟩
    have skips := first skipped member
    rw [← SlotRule.applies_iff] at skips
    simpa using skips

theorem find?_none : SlotRule.all.find? (SlotRule.applies before) = none ↔
    ∀ rule ∈ SlotRule.all, ¬ rule.Applies before := by
  rw [List.find?_eq_none]
  exact forall₂_congr fun rule _ => not_congr SlotRule.applies_iff

theorem decided_ofPrefix (before : List Char) : Decided before (ofPrefix before) := by
  rw [ofPrefix]
  split
  · next ends =>
    obtain ⟨front, ends⟩ := List.getLast?_eq_some_iff.mp ends
    exact .sign ends
  · next noSign =>
    have other : ∀ front, before ≠ front ++ ['@'] :=
      fun front ends => noSign (List.getLast?_eq_some_iff.mpr ⟨front, ends⟩)
    split
    · next rule found =>
      obtain ⟨earlier, later, table, first, applies⟩ := find?_rule.mp found
      exact .rule other table first applies
    · next unfound =>
      have none := find?_none.mp unfound
      split
      · next blank => exact .blank other none (List.all_eq_true.mp blank)
      · next solid =>
        obtain ⟨c, inside, solid⟩ := List.all_eq_false.mp (by simpa using solid)
        exact .outside other none inside (by simpa using solid)

theorem ofPrefix_of_decided {slot : Slot} (decided : Decided before slot) : ofPrefix before = slot := by
  cases decided with
  | sign ends => rw [ofPrefix, if_pos (List.getLast?_eq_some_iff.mpr ⟨_, ends⟩)]
  | rule other table first applies =>
    rw [ofPrefix, if_neg fun ends => (List.getLast?_eq_some_iff.mp ends).elim other,
      find?_rule.mpr ⟨_, _, table, first, applies⟩]
  | blank other none blank =>
    rw [ofPrefix, if_neg fun ends => (List.getLast?_eq_some_iff.mp ends).elim other, find?_none.mpr none]
    exact if_pos (List.all_eq_true.mpr blank)
  | outside other none inside solid =>
    rw [ofPrefix, if_neg fun ends => (List.getLast?_eq_some_iff.mp ends).elim other, find?_none.mpr none]
    refine if_neg fun blank => ?_
    rw [List.all_eq_true.mp blank _ inside] at solid
    cases solid

/-- The rules are applied as they read, whichever way the pieces can be split, and a line prefix has the slot
that the table of rules decides on. -/
theorem decided_by_first_rule (before : List Char) :
    (∀ rule : SlotRule, rule.applies before = true ↔ rule.Applies before) ∧
      ∀ slot, ofPrefix before = slot ↔ Decided before slot := by
  refine ⟨fun rule => SlotRule.applies_iff, fun slot => ⟨?_, ofPrefix_of_decided⟩⟩
  rintro rfl
  exact decided_ofPrefix before

end Slot

end ThemeSense
