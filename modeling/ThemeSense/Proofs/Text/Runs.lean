import Mathlib.Data.List.Basic
import Mathlib.Data.List.TakeWhile
import ThemeSense.Text.Blank
import ThemeSense.Text.Hex

namespace ThemeSense

theorem isAlphanum_iff {c : Char} : c.isAlphanum = true ↔
    ('A'.val ≤ c.val ∧ c.val ≤ 'Z'.val ∨ 'a'.val ≤ c.val ∧ c.val ≤ 'z'.val) ∨ '0'.val ≤ c.val ∧ c.val ≤ '9'.val := by
  have ranges : c.isAlphanum = ((decide ('A'.val ≤ c.val ∧ c.val ≤ 'Z'.val) ||
      decide ('a'.val ≤ c.val) && decide (c.val ≤ 'z'.val)) || decide ('0'.val ≤ c.val) && decide (c.val ≤ '9'.val)) :=
    rfl
  simp only [ranges, Bool.or_eq_true, Bool.and_eq_true, decide_eq_true_eq]

theorem isAlphanum_of_hex {c : Char} (hex : Hex.isDigit c = true) : c.isAlphanum = true := by
  simp only [Hex.isDigit, Hex.value?] at hex
  rw [isAlphanum_iff]
  split at hex
  · rename_i digit
    exact .inr digit
  split at hex
  · rename_i lower
    exact .inl (.inr ⟨lower.1, UInt32.le_trans lower.2 (by decide)⟩)
  split at hex
  · rename_i upper
    exact .inl (.inl ⟨upper.1, UInt32.le_trans upper.2 (by decide)⟩)
  · cases hex

theorem toNat_of_isBlank {c : Char} (blank : isBlank c = true) : c.toNat ≤ 32 ∨ 133 ≤ c.toNat := by
  simp only [isBlank, Bool.or_eq_true, Bool.and_eq_true, decide_eq_true_eq, beq_iff_eq] at blank
  omega

theorem solid_of_all {cs : List Char} (none : cs.all (!isBlank ·) = true) : ∀ c ∈ cs, isBlank c = false := by
  simpa using none

theorem isBlank_of_isAlphanum {c : Char} (alphanumeric : c.isAlphanum = true) : isBlank c = false := by
  rw [← Bool.not_eq_true]
  intro blank
  have outside := toNat_of_isBlank blank
  rw [isAlphanum_iff] at alphanumeric
  simp only [UInt32.le_iff_toNat_le] at alphanumeric
  have bounds : 48 ≤ c.toNat ∧ c.toNat ≤ 122 := by
    rcases alphanumeric with (upper | lower) | digit
    · exact ⟨Nat.le_trans (by decide) upper.1, Nat.le_trans upper.2 (by decide)⟩
    · exact ⟨Nat.le_trans (by decide) lower.1, Nat.le_trans lower.2 (by decide)⟩
    · exact ⟨digit.1, Nat.le_trans digit.2 (by decide)⟩
  omega

namespace Text

theorem after?_eq_some {start cs rest : List Char} : after? start cs = some rest ↔ cs = start ++ rest := by
  rw [after?, List.isPrefixOf?_eq_some_iff_append_eq, eq_comm]

/-- A text does not go on with characters of a class. -/
def Ends (member : Char → Bool) (rest : List Char) : Prop :=
  ∀ c ∈ rest.head?, member c = false

section Runs

variable {member : Char → Bool} {run rest : List Char}

theorem ends_cons {c : Char} : Ends member (c :: rest) ↔ member c = false := by
  simp [Ends]

theorem ends_append (nonempty : run ≠ []) (others : ∀ c ∈ run, member c = false) : Ends member (run ++ rest) := by
  obtain ⟨c, run, rfl⟩ := List.exists_cons_of_ne_nil nonempty
  exact ends_cons.mpr (others c (by simp))

theorem ends_dropWhile (cs : List Char) : Ends member (cs.dropWhile member) := by
  intro c first
  have stopped := List.head?_dropWhile_not member cs
  rw [Option.mem_def.mp first] at stopped
  exact stopped

theorem Ends.takeWhile (ends : Ends member rest) (all : ∀ c ∈ run, member c = true) :
    (run ++ rest).takeWhile member = run := by
  rw [List.takeWhile_append_of_pos all]
  cases rest with
  | nil => simp
  | cons c rest => simp [ends_cons.mp ends]

theorem Ends.dropWhile (ends : Ends member rest) (all : ∀ c ∈ run, member c = true) :
    (run ++ rest).dropWhile member = rest := by
  rw [List.dropWhile_append_of_pos all]
  cases rest with
  | nil => rfl
  | cons c rest => simp [ends_cons.mp ends]

theorem take_run (cs : List Char) : cs.take (cs.takeWhile member).length = cs.takeWhile member := by
  conv_lhs => rw [← List.takeWhile_append_dropWhile (p := member) (l := cs)]
  rw [(ends_dropWhile cs).takeWhile fun c => List.mem_takeWhile_imp, List.take_left]

theorem drop_run (cs : List Char) : cs.drop (cs.takeWhile member).length = cs.dropWhile member := by
  conv_lhs => rw [← List.takeWhile_append_dropWhile (p := member) (l := cs)]
  rw [(ends_dropWhile cs).takeWhile fun c => List.mem_takeWhile_imp, List.drop_left]

/-- A text has one longest run at its start. -/
theorem Ends.unique {run' rest' : List Char} (ends : Ends member rest) (ends' : Ends member rest')
    (all : ∀ c ∈ run, member c = true) (all' : ∀ c ∈ run', member c = true)
    (same : run ++ rest = run' ++ rest') : run = run' ∧ rest = rest' := by
  have runs := congrArg (List.takeWhile member) same
  have rests := congrArg (List.dropWhile member) same
  rw [ends.takeWhile all, ends'.takeWhile all'] at runs
  rw [ends.dropWhile all, ends'.dropWhile all'] at rests
  exact ⟨runs, rests⟩

end Runs

theorem trim_of_solid {cs : List Char} (solid : ∀ c ∈ cs, isBlank c = false) : trim cs = cs := by
  have kept : ∀ run : List Char, (∀ c ∈ run, isBlank c = false) → run.dropWhile isBlank = run := by
    intro run solid
    cases run with
    | nil => rfl
    | cons c run => simp [solid c (by simp)]
  rw [trim, trimStart, kept cs solid, trimEnd, kept _ (by simpa using solid), List.reverse_reverse]

/-- What is left of a text without the blanks around it starts with the first character that is no blank. -/
theorem head?_trim {cs : List Char} {c : Char} (solid : isBlank c = false) :
    (trim cs).head? = some c ↔ ∃ indent rest, cs = indent ++ c :: rest ∧ ∀ d ∈ indent, isBlank d = true := by
  have kept {d : Char} (rest : List Char) (solid : isBlank d = false) : (trimEnd (d :: rest)).head? = some d := by
    rw [trimEnd, List.reverse_cons, List.dropWhile_append]
    split
    · simp [solid]
    · simp
  constructor
  · intro starts
    have split : cs = cs.takeWhile isBlank ++ cs.dropWhile isBlank := List.takeWhile_append_dropWhile.symm
    have stopped : Ends isBlank (cs.dropWhile isBlank) := ends_dropWhile cs
    rw [trim, trimStart] at starts
    cases left : cs.dropWhile isBlank with
    | nil =>
      rw [left] at starts
      cases starts
    | cons d rest =>
      rw [left] at starts split stopped
      rw [kept rest (ends_cons.mp stopped), Option.some.injEq] at starts
      subst starts
      exact ⟨_, rest, split, fun e => List.mem_takeWhile_imp⟩
  · rintro ⟨indent, rest, rfl, blank⟩
    have start : trimStart (indent ++ c :: rest) = c :: rest := by
      rw [trimStart, List.dropWhile_append_of_pos blank, List.dropWhile_cons_of_neg (by simp [solid])]
    rw [trim, start, kept rest solid]

/-- A character that is not in a piece of a text stands before the piece or behind it. -/
theorem outside_of_not_mem {before piece after left right : List Char} {c : Char}
    (same : before ++ piece ++ after = left ++ c :: right) (absent : c ∉ piece) :
    (∃ between, before = left ++ c :: between) ∨ ∃ between, left = before ++ piece ++ between := by
  rcases List.append_eq_append_iff.mp same with ⟨between, behind, _⟩ | ⟨inner, cut, tail⟩
  · exact .inr ⟨between, behind⟩
  · cases inner with
    | nil => exact .inr ⟨[], by simpa using cut.symm⟩
    | cons d inner =>
      obtain ⟨rfl, _⟩ := List.cons.inj (tail.trans (List.cons_append ..))
      rcases List.append_eq_append_iff.mp cut with ⟨more, _, inside⟩ | ⟨more, ahead, inside⟩
      · exact absurd (by simp [inside]) absent
      · cases more with
        | nil =>
          rw [List.nil_append] at inside
          rw [← inside] at absent
          exact absurd List.mem_cons_self absent
        | cons e more =>
          obtain ⟨rfl, _⟩ := List.cons.inj (inside.trans (List.cons_append ..))
          exact .inl ⟨more, ahead⟩

/-- If a character opens a piece and is not in the rest of it, the next one stands behind the piece. -/
theorem behind_of_opening {c : Char} {piece after before right : List Char}
    (same : c :: piece ++ after = before ++ c :: right) (once : c ∉ piece) (nonempty : before ≠ []) :
    ∃ between, before = c :: piece ++ between := by
  have opened : [c] ++ piece ++ after = before ++ c :: right := by simpa using same
  rcases outside_of_not_mem opened once with ⟨between, ahead⟩ | behind
  · have lengths := congrArg List.length ahead
    simp only [List.length_append, List.length_cons, List.length_nil] at lengths
    exact absurd (List.length_eq_zero_iff.mp (by omega)) nonempty
  · simpa using behind

/-- What follows the last place of a character. -/
theorem eq_of_last {c : Char} {left right left' right' : List Char} (once : c ∉ right) (once' : c ∉ right')
    (same : left ++ c :: right = left' ++ c :: right') : right = right' := by
  rcases List.append_eq_append_iff.mp same with ⟨_ | ⟨d, more⟩, _, tails⟩ | ⟨_ | ⟨d, more⟩, _, tails⟩
  · exact List.cons_injective tails
  · obtain ⟨rfl, inside⟩ := List.cons.inj (tails.trans (List.cons_append ..))
    exact absurd (by simp [inside]) once
  · exact (List.cons_injective tails).symm
  · obtain ⟨rfl, inside⟩ := List.cons.inj (tails.trans (List.cons_append ..))
    exact absurd (by simp [inside]) once'

end Text

end ThemeSense
