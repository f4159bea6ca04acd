import ThemeSense.Proofs.Split
import ThemeSense.Proofs.Text.Runs

namespace ThemeSense.Text

/-- A text neither starts nor ends with a blank. -/
structure Bare (cs : List Char) : Prop where
  start : ∀ c ∈ cs.head?, isBlank c = false
  finish : ∀ c ∈ cs.getLast?, isBlank c = false

instance (cs : List Char) : Decidable (Bare cs) :=
  decidable_of_iff (cs.head?.all (!isBlank ·) = true ∧ cs.getLast?.all (!isBlank ·) = true) <| by
    simp only [Option.all_eq_true, Bool.not_eq_true']
    exact ⟨fun ends => ⟨ends.1, ends.2⟩, fun bare => ⟨bare.start, bare.finish⟩⟩

/-- A text, and the same text with blanks before and behind it. -/
def Around (inner outer : List Char) : Prop :=
  ∃ before after, (∀ c ∈ before, isBlank c = true) ∧ (∀ c ∈ after, isBlank c = true) ∧
    outer = before ++ inner ++ after

theorem Around.refl (cs : List Char) : Around cs cs :=
  ⟨[], [], by simp, by simp, by simp⟩

theorem around_append_left {before : List Char} (blank : ∀ c ∈ before, isBlank c = true) (cs : List Char) :
    Around cs (before ++ cs) :=
  ⟨before, [], blank, by simp, by simp⟩

theorem around_append_right {after : List Char} (blank : ∀ c ∈ after, isBlank c = true) (cs : List Char) :
    Around cs (cs ++ after) :=
  ⟨[], after, by simp, blank, by simp⟩

theorem Around.trans {inner middle outer : List Char} (near : Around inner middle) (far : Around middle outer) :
    Around inner outer := by
  obtain ⟨before, after, blankBefore, blankAfter, rfl⟩ := near
  obtain ⟨before', after', blankBefore', blankAfter', rfl⟩ := far
  refine ⟨before' ++ before, after ++ after', ?_, ?_, by simp⟩
  · exact List.forall_mem_append.mpr ⟨blankBefore', blankBefore⟩
  · exact List.forall_mem_append.mpr ⟨blankAfter, blankAfter'⟩

section Trim

variable {cs before after : List Char} {c : Char}

theorem trim_append_left (blank : ∀ c ∈ before, isBlank c = true) : trim (before ++ cs) = trim cs := by
  rw [trim, trimStart, List.dropWhile_append_of_pos blank]
  rfl

theorem trim_append_right (blank : ∀ c ∈ after, isBlank c = true) : trim (cs ++ after) = trim cs := by
  rw [trim, trimStart, List.dropWhile_append]
  split
  · rename_i empty
    rw [trim, trimStart, List.isEmpty_iff.mp empty, List.dropWhile_eq_nil_iff.mpr blank]
  · rw [trimEnd, List.reverse_append, List.dropWhile_append_of_pos (by simpa using blank)]
    rfl

theorem Around.trim_eq {inner outer : List Char} (around : Around inner outer) : trim outer = trim inner := by
  obtain ⟨before, after, blankBefore, blankAfter, rfl⟩ := around
  rw [trim_append_right blankAfter, trim_append_left blankBefore]

theorem Ends.trimStart_eq (ends : Ends isBlank cs) : trimStart cs = cs :=
  ends.dropWhile (List.forall_mem_nil _)

theorem Bare.trimEnd_eq (bare : Bare cs) : trimEnd cs = cs := by
  have ends : Ends isBlank cs.reverse := by
    rw [Ends, List.head?_reverse]
    exact bare.finish
  rw [trimEnd, ← trimStart, ends.trimStart_eq, List.reverse_reverse]

theorem Bare.trim_eq (bare : Bare cs) : trim cs = cs := by
  rw [trim, Ends.trimStart_eq bare.start, bare.trimEnd_eq]

theorem trimStart_append_cons (left right : List Char) (solid : isBlank c = false) :
    trimStart (left ++ c :: right) = trimStart left ++ c :: right := by
  rw [trimStart, trimStart, List.dropWhile_append]
  split
  · rename_i empty
    simp [List.isEmpty_iff.mp empty, solid]
  · rfl

theorem trimEnd_append_cons (left right : List Char) (solid : isBlank c = false) :
    trimEnd (left ++ c :: right) = left ++ c :: trimEnd right := by
  have reversed : (left ++ c :: right).reverse = right.reverse ++ c :: left.reverse := by simp
  rw [trimEnd, reversed, ← trimStart, trimStart_append_cons _ _ solid]
  simp [trimStart, trimEnd]

/-- Of a text with a solid character in it, each end is trimmed by itself. -/
theorem trim_append_cons (left right : List Char) (solid : isBlank c = false) :
    trim (left ++ c :: right) = trimStart left ++ c :: trimEnd right := by
  rw [trim, trimStart_append_cons _ _ solid, trimEnd_append_cons _ _ solid]

theorem around_trimStart (cs : List Char) : Around (trimStart cs) cs :=
  ⟨cs.takeWhile isBlank, [], fun _ => List.mem_takeWhile_imp, by simp, by simp [trimStart]⟩

theorem trimEnd_append_blanks (cs : List Char) : trimEnd cs ++ (cs.reverse.takeWhile isBlank).reverse = cs := by
  rw [trimEnd, ← List.reverse_append, List.takeWhile_append_dropWhile, List.reverse_reverse]

theorem around_trimEnd (cs : List Char) : Around (trimEnd cs) cs :=
  ⟨[], _, by simp, fun _ blank => List.mem_takeWhile_imp (List.mem_reverse.mp blank), (trimEnd_append_blanks cs).symm⟩

theorem around_trim (cs : List Char) : Around (trim cs) cs :=
  (around_trimEnd _).trans (around_trimStart cs)

theorem bare_trim (cs : List Char) : Bare (trim cs) where
  start := by
    intro c first
    refine ends_dropWhile cs c ?_
    rw [← trimStart, ← trimEnd_append_blanks (trimStart cs), List.head?_append, ← trim, Option.mem_def.mp first]
    rfl
  finish := by
    rw [trim, trimEnd, List.getLast?_reverse]
    exact ends_dropWhile _

end Trim

section Around

variable {inner outer : List Char}

theorem Around.mem_iff {c : Char} (around : Around inner outer) (solid : isBlank c = false) :
    c ∈ outer ↔ c ∈ inner := by
  obtain ⟨before, after, blankBefore, blankAfter, rfl⟩ := around
  have notBefore : c ∉ before := fun inside => by simp [blankBefore c inside] at solid
  have notAfter : c ∉ after := fun inside => by simp [blankAfter c inside] at solid
  simp [notBefore, notAfter]

theorem Around.head?_of_solid {c : Char} (around : Around inner outer) (solid : isBlank c = false)
    (first : outer.head? = some c) : inner.head? = some c := by
  obtain ⟨before, after, blankBefore, blankAfter, rfl⟩ := around
  have notBlank {run : List Char} (blank : ∀ c ∈ run, isBlank c = true) : run.head? ≠ some c := fun first => by
    simp [blank c (List.mem_of_mem_head? first)] at solid
  rw [List.append_assoc, List.head?_append, List.head?_append] at first
  cases atBefore : before.head? with
  | some d =>
    rw [atBefore] at first
    exact absurd (atBefore.trans first) (notBlank blankBefore)
  | none =>
    rw [atBefore, Option.none_or] at first
    cases atInner : inner.head? with
    | some d => simpa [atInner] using first
    | none =>
      rw [atInner, Option.none_or] at first
      exact absurd first (notBlank blankAfter)

/-- Where a text is cut and its pieces are trimmed, blanks around the whole do not show. -/
theorem Around.map_trim_split {sep : Char} (solid : isBlank sep = false) (around : Around inner outer) :
    (split sep outer).map trim = (split sep inner).map trim := by
  -- The blanks before the text belong to what stands left of a separator, those behind it to what stands right,
  -- so that each side is again a text with blanks around it.
  induction length : inner.length using Nat.strong_induction_on generalizing inner outer with
  | _ size ih =>
    by_cases found : sep ∈ inner
    · obtain ⟨before, after, blankBefore, blankAfter, rfl⟩ := around
      obtain ⟨first, rest, rfl⟩ := List.append_of_mem found
      simp only [List.length_append, List.length_cons] at length
      have regrouped : before ++ (first ++ sep :: rest) ++ after = (before ++ first) ++ sep :: (rest ++ after) := by
        simp
      rw [regrouped, split_append, split_append, List.map_append, List.map_append,
        ih first.length (by omega) (around_append_left blankBefore first) rfl,
        ih rest.length (by omega) (around_append_right blankAfter rest) rfl]
    · have absent : sep ∉ outer := fun inside => found ((around.mem_iff solid).mp inside)
      rw [split_of_not_mem found, split_of_not_mem absent, List.map_singleton, List.map_singleton, around.trim_eq]

end Around

end ThemeSense.Text
