import Mathlib.Data.List.TakeWhile
import ThemeSense.Proofs.Text.Position
import ThemeSense.Proofs.Text.Runs
import ThemeSense.Text.Pattern

namespace ThemeSense

open Text

namespace Pattern

namespace Match

variable (found : Match)

@[simp] theorem take_nil : found.take [] = found := by
  simp [take]

@[simp] theorem take_take (first second : List Char) :
    (found.take first).take second = found.take (first ++ second) := by
  simp [take]

/-- A group holds what was taken since it was begun. -/
theorem close_take (text : List Char) : (found.take text).close found =
    ⟨found.previous, found.taken ++ text, found.groups ++ [(found.taken, text)]⟩ := by
  simp [close, take]

theorem last?_take {text : List Char} (nonempty : text ≠ []) : (found.take text).last? = text.getLast? := by
  simp [last?, take, List.getLast?_eq_some_getLast nonempty]

end Match

section Search

variable {α : Type} (found : Match) (cs : List Char) (next : Match → List Char → Option α)

theorem search_word (text : List Char) :
    (word text).search found cs next = (after? text cs).bind (next (found.take text)) := rfl

theorem search_run (member : Char → Bool) (least : Nat) (most : Option Nat) :
    (run member least most).search found cs next = stretch? member least most found next cs := rfl

theorem search_wordEdge : wordEdge.search found cs next =
    if found.last?.any isWordChar != cs.head?.any isWordChar then next found cs else none := rfl

theorem search_either (first second : Pattern) : (either first second).search found cs next =
    (first.search found cs next).or (second.search found cs next) := rfl

theorem search_chain (first second : Pattern) : (chain first second).search found cs next =
    first.search found cs fun found cs => second.search found cs next := rfl

theorem search_group (inner : Pattern) : (group inner).search found cs next =
    inner.search found cs fun after => next (after.close found) := rfl

/-- Behind a part of a word, the edge is where no more of the word follows. -/
theorem search_wordEdge_behind {text : List Char} (nonempty : text ≠ []) (word : ∀ c ∈ text, isWordChar c = true) :
    wordEdge.search ((found.take text).close found) cs next =
      if cs.head?.any isWordChar then none else next ((found.take text).close found) cs := by
  have last : ((found.take text).close found).last?.any isWordChar = true := by
    have kept : ((found.take text).close found).last? = (found.take text).last? := rfl
    rw [kept, Match.last?_take found nonempty, List.getLast?_eq_some_getLast nonempty, Option.any_some]
    exact word _ (List.getLast_mem nonempty)
  rw [search_wordEdge, last]
  cases cs.head?.any isWordChar <;> rfl

end Search

section Runs

variable {α : Type} {member : Char → Bool} {least : Nat} {most : Option Nat} {found : Match}
  {next : Match → List Char → Option α}

/-- If the rest of the search fails before a member of the class, only the longest stretch is left. -/
theorem stretch?_of_refusing (cs : List Char)
    (refuses : ∀ stretch c rest, least ≤ stretch.length → (∀ d ∈ stretch, member d = true) → member c = true →
      next (found.take stretch) (c :: rest) = none) :
    stretch? member least most found next cs =
      if least ≤ (cs.takeWhile member).length ∧ ∀ bound ∈ most, (cs.takeWhile member).length ≤ bound then
        next (found.take (cs.takeWhile member)) (cs.dropWhile member)
      else none := by
  induction cs generalizing least most found with
  | nil => simp [stretch?]
  | cons c rest ih =>
    by_cases inside : member c = true
    · -- Nothing can follow the empty stretch, so it is the longer ones that count.
      have notHere : (if least = 0 then next found (c :: rest) else none) = none := by
        split
        · rename_i zero
          simpa using refuses [] c rest (by simp [zero]) (by simp) inside
        · rfl
      rw [stretch?, notHere, Option.or_none, List.takeWhile_cons_of_pos inside, List.dropWhile_cons_of_pos inside]
      by_cases full : most = some 0
      · simp [full]
      · have refusesLater (stretch : List Char) (d : Char) (tail : List Char) (enough : least - 1 ≤ stretch.length)
            (members : ∀ e ∈ stretch, member e = true) (isMember : member d = true) :
            next ((found.take [c]).take stretch) (d :: tail) = none := by
          have enoughAll : least ≤ (c :: stretch).length := Nat.le_add_of_sub_le enough
          rw [Match.take_take]
          exact refuses (c :: stretch) d tail enoughAll (by simpa [inside] using members) isMember
        rw [if_pos ⟨inside, full⟩, ih refusesLater, Match.take_take]
        refine if_congr ?_ rfl rfl
        cases most with
        | none => simp
        | some bound =>
          have positive : bound ≠ 0 := fun zero => full (by rw [zero])
          simp only [Option.map_some, Option.mem_def, Option.some.injEq, forall_eq', List.length_cons]
          omega
    · simp [stretch?, inside]

/-- If the rest of the search never fails, the longest stretch is taken. -/
theorem stretch?_of_accepting (cs : List Char) (accepts : ∀ found rest, (next found rest).isSome = true) :
    stretch? member least none found next cs =
      if least ≤ (cs.takeWhile member).length then
        next (found.take (cs.takeWhile member)) (cs.dropWhile member)
      else none := by
  induction cs generalizing least found with
  | nil => simp [stretch?]
  | cons c rest ih =>
    by_cases inside : member c = true
    · rw [stretch?, if_pos ⟨inside, by simp⟩, Option.map_none, ih, Match.take_take,
        List.takeWhile_cons_of_pos inside, List.dropWhile_cons_of_pos inside, List.length_cons]
      by_cases enough : least ≤ (rest.takeWhile member).length + 1
      · rw [if_pos (by omega), if_pos enough, Option.or_of_isSome (accepts _ _)]
        rfl
      · rw [if_neg (by omega), if_neg enough, if_neg (by omega)]
        rfl
    · simp [stretch?, inside]

/-- Behind any members of a class the rest of the search fails if one more follows. -/
def Refuses (member : Char → Bool) (found : Match) (next : Match → List Char → Option α) : Prop :=
  ∀ stretch c rest, stretch ≠ [] → (∀ d ∈ stretch, member d = true) → member c = true →
    next (found.take stretch) (c :: rest) = none

theorem Refuses.behind {word : List Char} (refuses : Refuses member found next)
    (members : ∀ c ∈ word, member c = true) : Refuses member (found.take word) next := by
  intro stretch c rest nonempty others isMember
  rw [Match.take_take]
  refine refuses _ c rest (by simp [nonempty]) (fun d inside => ?_) isMember
  exact (List.mem_append.mp inside).elim (members d) (others d)

end Runs

/-- The pattern takes the whole run of members at the start of a text, if the run fits, and nothing else: there is
no way back to a shorter part of the run when what follows cannot start with a member. -/
structure TakesRun (pattern : Pattern) (member : Char → Bool) (fits : List Char → Bool) : Prop where
  search_eq {α : Type} {found : Match} {next : Match → List Char → Option α} (refuses : Refuses member found next)
    (cs : List Char) : pattern.search found cs next =
      if fits (cs.takeWhile member) then next (found.take (cs.takeWhile member)) (cs.dropWhile member) else none

namespace TakesRun

variable {member : Char → Bool} {fits others : List Char → Bool} {pattern second : Pattern}

theorem congr (takes : pattern.TakesRun member fits)
    (same : ∀ stretch : List Char, (∀ c ∈ stretch, member c = true) → fits stretch = others stretch) :
    pattern.TakesRun member others := by
  refine ⟨fun refuses cs => ?_⟩
  rw [takes.search_eq refuses, same _ fun c => List.mem_takeWhile_imp]

theorem run {least : Nat} (positive : 0 < least) (most : Option Nat) : (run member least most).TakesRun member
    fun stretch => decide (least ≤ stretch.length ∧ ∀ bound ∈ most, stretch.length ≤ bound) := by
  refine ⟨fun refuses cs => ?_⟩
  rw [search_run, stretch?_of_refusing cs]
  · simp only [decide_eq_true_eq]
  · intro stretch c rest enough members isMember
    exact refuses stretch c rest (List.length_pos_iff.mp (by omega)) members isMember

theorem word {text : List Char} (nonempty : text ≠ []) (members : ∀ c ∈ text, member c = true) :
    (word text).TakesRun member (· == text) := by
  refine ⟨fun {α found next} refuses cs => ?_⟩
  simp only [search_word, beq_iff_eq]
  split
  · rename_i whole
    have cut : after? text cs = some (cs.dropWhile member) := by
      rw [after?_eq_some, ← whole, List.takeWhile_append_dropWhile]
    rw [cut, whole, Option.bind_some]
  · rename_i longer
    cases cut : after? text cs with
    | none => rfl
    | some rest =>
      rw [after?_eq_some] at cut
      cases rest with
      | nil => exact absurd (by simpa [cut] using members) longer
      | cons c rest =>
        by_cases inside : member c = true
        · exact refuses text c rest nonempty members inside
        · rw [cut, (ends_cons.mpr (by simpa using inside)).takeWhile members] at longer
          exact absurd rfl longer

theorem wordThen {text : List Char} (members : ∀ c ∈ text, member c = true) (takes : pattern.TakesRun member fits) :
    (chain (.word text) pattern).TakesRun member fun stretch => (after? text stretch).any fits := by
  refine ⟨fun {α found next} refuses cs => ?_⟩
  rw [search_chain, search_word]
  cases cut : after? text cs with
  | none =>
    have noPart : after? text (cs.takeWhile member) = none := by
      rw [Option.eq_none_iff_forall_ne_some] at cut ⊢
      intro side isSide
      refine cut (side ++ cs.dropWhile member) ?_
      rw [after?_eq_some] at isSide ⊢
      rw [← List.append_assoc, ← isSide, List.takeWhile_append_dropWhile]
    simp [noPart]
  | some rest =>
    rw [after?_eq_some] at cut
    have part : after? text (text ++ rest.takeWhile member) = some (rest.takeWhile member) := after?_eq_some.mpr rfl
    rw [Option.bind_some, takes.search_eq (refuses.behind members), cut, List.takeWhile_append_of_pos members,
      List.dropWhile_append_of_pos members, Match.take_take]
    simp only [part, Option.any_some]

theorem either (takes : pattern.TakesRun member fits) (takesOther : second.TakesRun member others) :
    (either pattern second).TakesRun member fun stretch => fits stretch || others stretch := by
  refine ⟨fun refuses cs => ?_⟩
  rw [search_either, takes.search_eq refuses, takesOther.search_eq refuses]
  cases fits (cs.takeWhile member)
  · simp
  · cases others (cs.takeWhile member) <;> simp

/-- One of several words, or else what another pattern takes. -/
theorem words {words : List String} (valid : ∀ word ∈ words, word.toList ≠ [] ∧ ∀ c ∈ word.toList, member c = true)
    (takes : pattern.TakesRun member fits) :
    (words.foldr (fun word others => Pattern.either (.word word.toList) others) pattern).TakesRun member
      fun stretch => words.contains (String.ofList stretch) || fits stretch := by
  induction words with
  | nil => simpa using takes
  | cons first words ih =>
    obtain ⟨nonempty, members⟩ := valid first (by simp)
    have both := (word nonempty members).either (ih fun other listed => valid other (by simp [listed]))
    have same (stretch : List Char) : (String.ofList stretch == first) = (stretch == first.toList) := by
      rw [Bool.eq_iff_iff, beq_iff_eq, beq_iff_eq, ← String.toList_inj, String.toList_ofList]
    simpa only [List.foldr_cons, List.contains_cons, same, Bool.or_assoc] using both

end TakesRun

end Pattern

section Scan

variable {α : Type} {find? : List Char → Option α}

/-- What is found at the places of a text, from left to right, with all that stands before it. -/
def Text.scan (find? : List Char → Option α) (before : List Char) : List Char → List (List Char × α)
  | [] => []
  | c :: rest => ((find? (c :: rest)).map (before, ·)).toList ++ scan find? (before ++ [c]) rest

theorem Text.mem_scan (empty : find? [] = none) {before text : List Char} {found : List Char × α} :
    found ∈ scan find? before text ↔
      ∃ middle rest, text = middle ++ rest ∧ found.1 = before ++ middle ∧ find? rest = some found.2 := by
  induction text generalizing before with
  | nil => simp [scan, empty]
  | cons c text ih =>
    rw [scan, List.mem_append, Option.mem_toList, Option.map_eq_some_iff, ih]
    constructor
    · rintro (⟨thing, here, rfl⟩ | ⟨middle, rest, rfl, place, later⟩)
      · exact ⟨[], c :: text, rfl, by simp, here⟩
      · exact ⟨c :: middle, rest, rfl, by simpa using place, later⟩
    · rintro ⟨middle, rest, same, place, there⟩
      cases middle with
      | nil =>
        rw [List.nil_append] at same
        exact .inl ⟨found.2, same ▸ there, by rw [← List.append_nil before, ← place]⟩
      | cons d middle =>
        obtain ⟨rfl, rfl⟩ := List.cons.inj (same.trans (List.cons_append ..))
        exact .inr ⟨middle, rest, rfl, by simpa using place, there⟩

/-- Things that are found one behind another are related if every two of them are that start so. -/
theorem Text.pairwise_scan (empty : find? [] = none) {related : List Char × α → List Char × α → Prop}
    (later : ∀ before middle rest first second, middle ≠ [] → find? (middle ++ rest) = some first →
      find? rest = some second → related (before, first) (before ++ middle, second)) (before text : List Char) :
    (scan find? before text).Pairwise related := by
  induction text generalizing before with
  | nil => exact .nil
  | cons c text ih =>
    rw [scan, List.pairwise_append]
    refine ⟨?_, ih _, ?_⟩
    · cases find? (c :: text) <;> simp
    · intro first here second behind
      obtain ⟨thing, atFirst, rfl⟩ := Option.map_eq_some_iff.mp (Option.mem_toList.mp here)
      obtain ⟨middle, rest, rfl, place, atSecond⟩ := (mem_scan empty).mp behind
      have related := later before (c :: middle) rest thing second.2 (by simp) atFirst atSecond
      rwa [List.append_cons, ← place] at related

/-- A reader finds what a pattern matches, and what it finds starts with a mark that does not stand in it again. -/
structure Pattern.ReadBy (pattern : Pattern) (find? : List Char → Option α) (toMatch : Option Char → α → Match)
    (mark : Char) : Prop where
  first?_eq (previous : Option Char) (cs : List Char) : pattern.first? previous cs = (find? cs).map (toMatch previous)
  marked {cs : List Char} {thing : α} (found : find? cs = some thing) : ∃ inner after,
    cs = mark :: inner ++ after ∧ mark ∉ inner ∧ ∀ previous, (toMatch previous thing).taken = mark :: inner

namespace Pattern.ReadBy

variable {pattern : Pattern} {toMatch : Option Char → α → Match} {mark : Char}

/-- Nothing starts inside a match. -/
theorem none_inside (reads : pattern.ReadBy find? toMatch mark) {previous : Option Char} {thing : α}
    {middle rest : List Char} (found : find? (middle ++ rest) = some thing) (nonempty : middle ≠ [])
    (inside : middle.length < (toMatch previous thing).taken.length) : find? rest = none := by
  rw [Option.eq_none_iff_forall_ne_some]
  intro other foundOther
  obtain ⟨inner, after, same, once, taken⟩ := reads.marked found
  obtain ⟨innerOther, afterOther, rfl, _⟩ := reads.marked foundOther
  obtain ⟨between, rfl⟩ := behind_of_opening same.symm once nonempty
  rw [taken, List.length_append] at inside
  omega

/-- So the matches, with the search going on behind each of them, are what the reader finds at all places. -/
theorem occurrences_eq (reads : pattern.ReadBy find? toMatch mark) (before text : List Char) {belonging : Nat}
    (belongs : ∀ middle rest, text = middle ++ rest → middle.length < belonging → find? rest = none) :
    pattern.occurrences (bytes before) before.getLast? belonging text =
      (scan find? before text).map fun found => ⟨bytes found.1, toMatch found.1.getLast? found.2⟩ := by
  -- the induction carries along that nothing is found at the places that belong to the last match
  induction text generalizing before belonging with
  | nil => rfl
  | cons c text ih =>
    have offset : bytes before + c.utf8Size = bytes (before ++ [c]) := by simp [bytes_cons]
    have last : some c = (before ++ [c]).getLast? := by simp
    cases belonging with
    | succ belonging =>
      have notHere : find? (c :: text) = none := belongs [] (c :: text) rfl (by simp)
      rw [occurrences, offset, last, scan, notHere]
      refine ih (before ++ [c]) fun middle rest same less => ?_
      exact belongs (c :: middle) rest (by rw [same, List.cons_append]) (by simpa using less)
    | zero =>
      rw [occurrences, reads.first?_eq, offset, last, scan]
      cases here : find? (c :: text) with
      | none => exact ih (before ++ [c]) (by simp)
      | some thing =>
        refine congrArg (List.cons _) (ih (before ++ [c]) fun middle rest same less => ?_)
        rw [same, ← List.cons_append] at here
        exact reads.none_inside here (List.cons_ne_nil c middle) (Nat.add_lt_of_lt_sub less)

theorem occurrences_eq_scan (reads : pattern.ReadBy find? toMatch mark) (text : List Char) :
    pattern.occurrences 0 none 0 text =
      (scan find? [] text).map fun found => ⟨bytes found.1, toMatch found.1.getLast? found.2⟩ :=
  reads.occurrences_eq [] text fun _ _ _ negative => absurd negative (Nat.not_lt_zero _)

end Pattern.ReadBy

end Scan

end ThemeSense
