import Mathlib.Algebra.Group.Nat.Defs
import ThemeSense.Completion.Item
import ThemeSense.Completion.Provider

namespace ThemeSense

namespace Text

theorem toNat_of_isDigit {c : Char} (isDigit : c.isDigit = true) : 48 ≤ c.toNat ∧ c.toNat ≤ 57 :=
  Char.isDigit_iff_toNat.mp isDigit

theorem ofDigitChars_cons_eq (c : Char) (digits : List Char) :
    Nat.ofDigitChars 10 (c :: digits) 0 =
      10 ^ digits.length * (c.toNat - 48) + Nat.ofDigitChars 10 digits 0 := by
  rw [Nat.ofDigitChars_cons, Nat.ofDigitChars_eq_ofDigitChars_zero, Nat.mul_zero, Nat.zero_add]
  rfl

theorem ofDigitChars_lt {digits : List Char} (all : ∀ c ∈ digits, c.isDigit = true) :
    Nat.ofDigitChars 10 digits 0 < 10 ^ digits.length := by
  induction digits with
  | nil => simp
  | cons c digits ih =>
    obtain ⟨here, later⟩ := List.forall_mem_cons.mp all
    have bounds := toNat_of_isDigit here
    have tail := ih later
    rw [ofDigitChars_cons_eq, List.length_cons, Nat.pow_succ]
    calc 10 ^ digits.length * (c.toNat - 48) + Nat.ofDigitChars 10 digits 0
        < 10 ^ digits.length * (c.toNat - 48) + 10 ^ digits.length := by omega
      _ = 10 ^ digits.length * (c.toNat - 48 + 1) := by rw [Nat.mul_succ]
      _ ≤ 10 ^ digits.length * 10 := Nat.mul_le_mul_left _ (by omega)

/-- Of two numbers with equally many digits, the one whose first digit is less is less. -/
theorem ofDigitChars_lt_of_head {c d : Char} {first second : List Char} (less : c.toNat < d.toNat)
    (isDigit : 48 ≤ c.toNat) (digits : ∀ c ∈ first, c.isDigit = true) (same : first.length = second.length) :
    Nat.ofDigitChars 10 (c :: first) 0 < Nat.ofDigitChars 10 (d :: second) 0 := by
  have tail := ofDigitChars_lt digits
  rw [ofDigitChars_cons_eq, ofDigitChars_cons_eq, ← same]
  calc 10 ^ first.length * (c.toNat - 48) + Nat.ofDigitChars 10 first 0
      < 10 ^ first.length * (c.toNat - 48) + 10 ^ first.length := by omega
    _ = 10 ^ first.length * (c.toNat - 48 + 1) := by rw [Nat.mul_succ]
    _ ≤ 10 ^ first.length * (d.toNat - 48) := Nat.mul_le_mul_left _ (by omega)
    _ ≤ 10 ^ first.length * (d.toNat - 48) + Nat.ofDigitChars 10 second 0 := Nat.le_add_right _ _

/-- Numbers that are written with equally many digits are in the order of their texts. -/
theorem lt_of_ofDigitChars_lt {first second : List Char} (firstDigits : ∀ c ∈ first, c.isDigit = true)
    (secondDigits : ∀ c ∈ second, c.isDigit = true) (same : first.length = second.length)
    (less : Nat.ofDigitChars 10 first 0 < Nat.ofDigitChars 10 second 0) : first < second := by
  induction first generalizing second with
  | nil =>
    cases second with
    | nil => exact absurd less (Nat.lt_irrefl _)
    | cons d second => cases same
  | cons c first ih =>
    cases second with
    | nil => cases same
    | cons d second =>
      obtain ⟨_, firstRest⟩ := List.forall_mem_cons.mp firstDigits
      obtain ⟨isSecond, secondRest⟩ := List.forall_mem_cons.mp secondDigits
      have lengths : first.length = second.length := Nat.succ.inj same
      rw [List.cons_lt_cons_iff]
      rcases Nat.lt_trichotomy c.toNat d.toNat with smaller | equal | greater
      · exact .inl smaller
      · have equal : c = d := Char.toNat_inj.mp equal
        subst equal
        rw [ofDigitChars_cons_eq, ofDigitChars_cons_eq, lengths] at less
        exact .inr ⟨rfl, ih firstRest secondRest lengths (Nat.lt_of_add_lt_add_left less)⟩
      · have more := ofDigitChars_lt_of_head greater (toNat_of_isDigit isSecond).1 secondRest lengths.symm
        exact absurd less (Nat.lt_asymm more)

end Text

namespace CompletionItem

/-- A rank of at most five digits is written with five of them. -/
theorem rankText_digits {rank : Nat} (small : rank < 100000) :
    (rankText rank).toList.length = 5 ∧ (∀ c ∈ (rankText rank).toList, c.isDigit = true) ∧
      Nat.ofDigitChars 10 (rankText rank).toList 0 = rank := by
  have short : (Nat.toDigits 10 rank).length ≤ 5 := (Nat.length_toDigits_le_iff (by decide) (by decide)).mpr small
  simp only [rankText, String.toList_ofList]
  refine ⟨by simp only [List.length_append, List.length_replicate]; omega, ?_, ?_⟩
  · intro c member
    rcases List.mem_append.mp member with padding | digit
    · rw [(List.mem_replicate.mp padding).2]
      rfl
    · exact Nat.isDigit_of_mem_toDigits (by decide) (by decide) digit
  · rw [Nat.ofDigitChars_append, Nat.ofDigitChars_replicate_zero, Nat.mul_zero, Nat.ofDigitChars_ten_toDigits]

theorem rankText_lt {rank later : Nat} (less : rank < later) (small : later < 100000) :
    rankText rank < rankText later := by
  obtain ⟨firstLength, firstDigits, firstValue⟩ := rankText_digits (Nat.lt_trans less small)
  obtain ⟨secondLength, secondDigits, secondValue⟩ := rankText_digits small
  rw [String.lt_iff]
  refine Text.lt_of_ofDigitChars_lt firstDigits secondDigits (firstLength.trans secondLength.symm) ?_
  rwa [firstValue, secondValue]

end CompletionItem

namespace Suggestion

theorem map_ranked {α : Type} (view : Suggestion → α) (unranked : ∀ suggestion rank,
    view { suggestion with rank := rank } = view suggestion) (suggestions : List Suggestion) :
    (ranked suggestions).map view = suggestions.map view := by
  calc (ranked suggestions).map view
      = suggestions.zipIdx.map (view ∘ Prod.fst) := by
        rw [ranked, List.map_map]
        exact List.map_congr_left fun row _ => unranked row.1 row.2
    _ = suggestions.map view := by rw [← List.map_map, List.zipIdx_map_fst]

/-- What is to be seen of suggested colors, whatever their ranks. -/
theorem map_colors {α : Type} (view : Suggestion → α) (unranked : ∀ suggestion rank,
    view { suggestion with rank := rank } = view suggestion) (found : Option ColorTable) :
    (colors found).map view =
      ((found.map fun table => table.flat ++ table.nested).getD []).map fun color => view (ofColor color) := by
  cases found with
  | none => rfl
  | some table =>
    rw [colors, map_ranked view unranked, List.map_map]
    rfl

theorem ranks_ranked (suggestions : List Suggestion) :
    (ranked suggestions).map (·.rank) = List.range suggestions.length := by
  rw [ranked, List.map_map, List.range_eq_range', ← List.zipIdx_map_snd]
  rfl

/-- Wherever suggestions come from, they are ranked. -/
theorem exists_ranked (theme : Theme) (slot : Slot) : ∃ listed, (theme.suggestions slot).1 = ranked listed := by
  cases slot with
  | colorValue =>
    simp only [Theme.suggestions]
    cases theme.resolveColors.1 with
    | none => exact ⟨[], rfl⟩
    | some table => exact ⟨_, rfl⟩
  | outside => exact ⟨[], rfl⟩
  | atRuleName | colorTarget | fontFamily | fontSize | breakpoint | spacingValue => exact ⟨_, rfl⟩

theorem rank_of_getElem? {listed : List Suggestion} {index : Nat} {suggestion : Suggestion}
    (found : (ranked listed)[index]? = some suggestion) : suggestion.rank = index := by
  have rank : ((ranked listed).map (·.rank))[index]? = some suggestion.rank := by
    rw [List.getElem?_map, found]
    rfl
  rw [ranks_ranked] at rank
  obtain ⟨_, same⟩ := List.getElem?_eq_some_iff.mp rank
  rw [← same, List.getElem_range]

/-- The texts by which an editor sorts ranked suggestions are in the order of the suggestions. -/
theorem sorted_ranked {listed : List Suggestion} (few : listed.length ≤ 100000) :
    (ranked listed).Pairwise fun earlier later => ∃ first second,
      (CompletionItem.ofSuggestion earlier).sortText = some first ∧
      (CompletionItem.ofSuggestion later).sortText = some second ∧ first < second := by
  have increasing : (ranked listed).Pairwise (·.rank < ·.rank) := by
    rw [← List.pairwise_map, ranks_ranked]
    exact List.pairwise_lt_range
  refine increasing.imp_of_mem fun {earlier later} _ inside less => ?_
  have small : later.rank ∈ List.range listed.length := by
    rw [← ranks_ranked]
    exact List.mem_map_of_mem inside
  have bound := List.mem_range.mp small
  exact ⟨_, _, rfl, rfl, CompletionItem.rankText_lt less (by omega)⟩

end Suggestion

end ThemeSense
