import ThemeSense.Proofs.Cursor.Invocation
import ThemeSense.Proofs.Mention

namespace ThemeSense

open Text

namespace SlotRule

/-- The rule that leaves the slot of a color's name open. -/
def colorValue : SlotRule :=
  .ofKinds false .color [.choice (colorTargets.map String.toList)] .colorValue

/-- It is tried second, after the rule for a line that ends with `@color` and a blank. -/
theorem all_eq : ∃ others, all = .ofKinds false .color [] .colorTarget :: colorValue :: others :=
  ⟨_, rfl⟩

theorem eq_colorValue {rule : SlotRule} (member : rule ∈ all) (slot : rule.slot = .colorValue) : rule = colorValue := by
  simp only [all, List.mem_cons, List.not_mem_nil, or_false] at member
  rcases member with rfl | rfl | rfl | rfl | rfl | rfl | rfl | rfl | rfl | rfl | rfl | rfl
  case inr.inl => rfl
  all_goals cases slot

/-- What a line ends with where a color's name belongs: all of a use of `@color` but the name. -/
theorem applies_colorValue {before : List Char} : colorValue.applies before = true ↔
    ∃ front space target blank, before = front ++ (ColorUse.keyword ++ space ++ target ++ [blank]) ∧
      (space ≠ [] ∧ ∀ c ∈ space, isBlank c = true) ∧ String.ofList target ∈ colorTargets ∧ isBlank blank = true := by
  have always : colorValue.applies before = fitsEnd colorValue.pieces before := rfl
  rw [always, fitsEnd_iff]
  constructor
  · rintro ⟨front, _, rfl, _, _, rfl, rfl, space, _, rfl, spaced, target, _, rfl, accepted, _, _, rfl,
      ⟨blank, rfl, ended⟩, rfl⟩
    obtain ⟨known, member, rfl⟩ := List.mem_map.mp accepted
    refine ⟨front, space, known.toList, blank, ?_, spaced, by simpa using member, ended⟩
    simp only [List.append_assoc, List.append_nil]
    rfl
  · rintro ⟨front, space, target, blank, rfl, spaced, member, ended⟩
    refine ⟨front, _, rfl, ColorUse.keyword, space ++ target ++ [blank], by simp, rfl, space, target ++ [blank],
      by simp, spaced, target, [blank], rfl, ?_, [blank], [], rfl, ⟨blank, rfl, ended⟩, rfl⟩
    exact List.mem_map.mpr ⟨_, member, String.toList_ofList⟩

end SlotRule

theorem ColorUse.isTarget_of_mem {target : List Char} (member : String.ofList target ∈ colorTargets) :
    isTarget target = true := by
  have known : ∀ word ∈ colorTargets, isTarget word.toList = true := by decide
  simpa using known _ member

/-- A line prefix with a slot for a color's name ends with all of a use but the name. -/
theorem Slot.lead_of_colorValue {before : List Char} (slot : ofPrefix before = .colorValue) {name : List Char}
    (named : name ≠ [] ∧ ∀ c ∈ name, ColorUse.isNameChar c = true) :
    ∃ front use, before = front ++ ColorUse.lead use ∧ use.name = name ∧ use.WellFormed := by
  rw [ofPrefix] at slot
  split at slot
  · cases slot
  · split at slot
    · rename_i rule found
      have applies := List.find?_some found
      rw [SlotRule.eq_colorValue (List.mem_of_find?_eq_some found) slot, SlotRule.applies_colorValue] at applies
      obtain ⟨front, space, target, blank, rfl, spaced, member, ended⟩ := applies
      exact ⟨front, ⟨space, target, [blank], name⟩, rfl, rfl, spaced, ColorUse.isTarget_of_mem member,
        ⟨by simp, by simpa using ended⟩, named⟩
    · split at slot <;> cases slot

namespace ColorUse.WellFormed

variable {use : ColorUse}

/-- The target stands between the last `@color` and the end. -/
theorem not_applies_colorTarget (formed : use.WellFormed) (front : List Char) :
    ¬ (SlotRule.ofKinds false .color [] .colorTarget).applies (front ++ use.lead) = true := by
  intro applies
  have always : (SlotRule.ofKinds false .color [] .colorTarget).applies (front ++ use.lead) =
    fitsEnd [.keyword keyword, SlotRule.blank] (front ++ use.lead) := rfl
  rw [always, fitsEnd_iff] at applies
  obtain ⟨other, _, same, _, _, rfl, rfl, _, _, rfl, ⟨last, rfl, isLast⟩, rfl⟩ := applies
  obtain ⟨rest, opened, once⟩ := formed.mark
  have onceLast : '@' ∉ "color".toList ++ [last] := by
    simp only [List.mem_append, List.mem_singleton, not_or]
    refine ⟨by decide, ?_⟩
    rintro rfl
    cases isLast
  have marks : front ++ '@' :: rest = other ++ '@' :: ("color".toList ++ [last]) := by
    rw [← opened, same]
    rfl
  have short : rest = "color".toList ++ [last] :=
    eq_of_last (fun inside => once (List.mem_append_left _ inside)) onceLast marks
  have lengths := congrArg List.length opened
  have spacePositive := List.length_pos_iff.mpr formed.space.1
  have targetPositive := List.length_pos_iff.mpr (isTarget_chars formed.target).1
  have gapPositive := List.length_pos_iff.mpr formed.gap.1
  have keywordLength : keyword.length = "color".toList.length + 1 := rfl
  simp only [lead, short, List.length_append, List.length_cons, List.length_nil] at lengths
  omega

/-- All of a use but the name, with one blank at the end, leaves a slot for the name. -/
theorem slot_of_lead (formed : use.WellFormed) (front : List Char)
    (target : String.ofList use.target ∈ colorTargets) (one : use.gap.length = 1) :
    Slot.ofPrefix (front ++ use.lead) = .colorValue := by
  obtain ⟨blank, gap⟩ := List.length_eq_one_iff.mp one
  have ended : isBlank blank = true := formed.gap.2 blank (by simp [gap])
  have lastChar : (front ++ use.lead).getLast? = some blank := by simp [lead, gap, ← List.append_assoc]
  have notMark : (front ++ use.lead).getLast? ≠ some '@' := by
    rw [lastChar]
    rintro ⟨⟩
    cases ended
  have applies : SlotRule.colorValue.applies (front ++ use.lead) = true :=
    SlotRule.applies_colorValue.mpr
      ⟨front, use.space, use.target, blank, by rw [lead, gap], formed.space, target, ended⟩
  obtain ⟨others, rules⟩ := SlotRule.all_eq
  rw [Slot.ofPrefix, if_neg notMark, rules, List.find?_cons_of_neg (formed.not_applies_colorTarget front),
    List.find?_cons_of_pos applies]
  rfl

end ColorUse.WellFormed

/-- The match that mentions a color: its target is the first group, and the gap lies between the groups. -/
structure Mention.UsedBy (text : List Char) (mention : Mention) (use : Pattern.Occurrence) (target gap : List Char) :
    Prop where
  found : use ∈ ColorUse.pattern.occurrences 0 none 0 text
  mentioned : ofColorUse? use = some mention
  groups : ∃ start, use.found.groups = [(start, target), (start ++ target ++ gap, mention.name)]

theorem Mention.usedBy_of_theme {text : List Char} {mention : Mention} (member : mention ∈ all text)
    (isTheme : mention.kind = .theme) : ∃ use target gap, UsedBy text mention use target gap := by
  rcases List.mem_append.mp member with named | literal
  · obtain ⟨use, found, mentioned⟩ := List.mem_filterMap.mp named
    have listed := found
    rw [ColorUse.pattern_readBy.occurrences_eq_scan, List.mem_map] at listed
    obtain ⟨⟨before, parts⟩, _, rfl⟩ := listed
    cases mentioned
    exact ⟨_, parts.target, parts.gap, found, rfl, ColorUse.keyword ++ parts.space, rfl⟩
  · obtain ⟨_, _, rfl⟩ := List.mem_map.mp literal
    cases isTheme

/-- Around the match stands a use of `@color` with its parts. -/
theorem Mention.UsedBy.parts {text target gap : List Char} {mention : Mention} {occurrence : Pattern.Occurrence}
    (usedBy : UsedBy text mention occurrence target gap) :
    ∃ before use after, text = before ++ (ColorUse.lead use ++ use.name ++ after) ∧ use.WellFormed ∧
      use.target = target ∧ use.gap = gap ∧ occurrence.start = bytes before ∧
      mention = ⟨.theme, use.name, bytes (before ++ use.lead)⟩ := by
  obtain ⟨listed, mentioned, start, groups⟩ := usedBy
  rw [ColorUse.pattern_readBy.occurrences_eq_scan, List.mem_map] at listed
  obtain ⟨⟨before, use⟩, atPlace, rfl⟩ := listed
  obtain ⟨_, _, rfl, rfl, found⟩ := (mem_scan rfl).mp atPlace
  obtain ⟨formed, after, rfl, _⟩ := ColorUse.wellFormed_of_ofStart? found
  simp only [ColorUse.toMatch, List.cons.injEq, Prod.mk.injEq, and_true] at groups
  obtain ⟨⟨rfl, rfl⟩, lead, _⟩ := groups
  refine ⟨before, use, after, rfl, formed, rfl, List.append_cancel_left lead, rfl, ?_⟩
  rw [bytes_append]
  exact (Option.some.inj mentioned).symm

theorem Mention.UsedBy.slot {text target gap : List Char} {mention : Mention} {occurrence : Pattern.Occurrence}
    (usedBy : UsedBy text mention occurrence target gap) (offered : String.ofList target ∈ colorTargets)
    (sameLine : (Position.ofByte text occurrence.start).line = (Position.ofByte text mention.start).line)
    (one : gap.length = 1) : slotAt text (Position.ofByte text mention.start) = .colorValue := by
  obtain ⟨before, use, after, rfl, formed, rfl, rfl, start, rfl⟩ := usedBy.parts
  rw [start] at sameLine
  have solid : ∀ c, isBlank c = true → c ∉ use.name := by
    intro c blank inside
    rw [ColorUse.isBlank_of_isNameChar (formed.name.2 c inside)] at blank
    cases blank
  have atUse := Position.ofByte_append before (use.lead ++ use.name ++ after)
  have atName := Position.ofByte_append (before ++ use.lead) (use.name ++ after)
  simp only [← List.append_assoc] at atUse atName sameLine ⊢
  rw [atUse, atName, Position.afterText_eq, Position.afterText_eq, List.count_append] at sameLine
  have oneLine : '\n' ∉ use.lead := List.count_eq_zero.mp (by simpa using sameLine)
  rw [slotAt, atName, linePrefix_around _ _ formed.name.1 (solid '\n' (by decide)) (solid '\r' (by decide)),
    lastLine_append before oneLine]
  exact formed.slot_of_lead _ offered one

/-- A color that is typed where one belongs is mentioned there. And the place of a mention is one where
a color belongs, if the target before it is one that is offered, with one blank behind it and the whole
use on one line. -/
theorem Slot.colorValue_where_mentioned :
    (∀ before name after, ofPrefix before = .colorValue → name ≠ [] → (∀ c ∈ name, ColorUse.isNameChar c = true) →
      Ends ColorUse.isNameChar after →
      ∃ mention ∈ Mention.all (before ++ name ++ after), mention.kind = .theme ∧ mention.name = name ∧
        mention.start = bytes before ∧ mention.stop = bytes (before ++ name)) ∧
    ∀ text, ∀ mention ∈ Mention.all text, mention.kind = .theme →
      (∃ use target gap, Mention.UsedBy text mention use target gap) ∧
      ∀ use target gap, Mention.UsedBy text mention use target gap → String.ofList target ∈ colorTargets →
        (Position.ofByte text use.start).line = (Position.ofByte text mention.start).line →
        gap.length = 1 → slotAt text (Position.ofByte text mention.start) = .colorValue := by
  constructor
  · intro before name after slot nonempty chars ends
    obtain ⟨front, use, rfl, rfl, formed⟩ := lead_of_colorValue slot ⟨nonempty, chars⟩
    refine ⟨⟨.theme, use.name, bytes (front ++ use.lead)⟩, Mention.mem_all.mpr (.inl ?_), rfl, rfl, rfl, ?_⟩
    · exact ⟨front, use.lead ++ use.name ++ after, use, by simp, formed.ofStart? ends, rfl⟩
    · simp only [Mention.stop, bytes_append]
  · intro text mention member isTheme
    refine ⟨Mention.usedBy_of_theme member isTheme, fun use target gap usedBy offered sameLine one => ?_⟩
    exact usedBy.slot offered sameLine one

theorem Slot.colorValue_where_mentioned_behind_other :
    let before := "@color bg x@color border-top ".toList
    let text := "é\n  @color fg main;\n".toList
    (ofPrefix before = .colorValue ∧ ∃ mention ∈ Mention.all (before ++ "brand.500".toList ++ ";".toList),
      mention.kind = .theme ∧ mention.name = "brand.500".toList ∧ mention.start = bytes before ∧
        mention.stop = bytes (before ++ "brand.500".toList)) ∧
    ⟨.theme, "main".toList, 15⟩ ∈ Mention.all text ∧ slotAt text (Position.ofByte text 15) = .colorValue := by
  intro before text
  have member : ⟨.theme, "main".toList, 15⟩ ∈ Mention.all text := by decide +kernel
  have used : Mention.UsedBy text ⟨.theme, "main".toList, 15⟩
      ⟨5, some ' ', "@color fg main".toList,
        [("@color ".toList, "fg".toList), ("@color fg ".toList, "main".toList)]⟩ "fg".toList " ".toList :=
    ⟨by decide +kernel, by decide, "@color ".toList, by decide⟩
  refine ⟨⟨by decide +kernel, ?_⟩, member, ?_⟩
  · exact colorValue_where_mentioned.1 before "brand.500".toList ";".toList (by decide +kernel) (by decide)
      (List.all_eq_true.mp rfl) (ends_cons.mpr rfl)
  · exact (colorValue_where_mentioned.2 text _ member rfl).2 _ _ _ used (by decide) (by decide +kernel) rfl

end ThemeSense
