import Mathlib.Data.List.Find
import Mathlib.Data.List.Forall2
import ThemeSense.Proofs.Cursor.Pieces
import ThemeSense.Proofs.Split

namespace ThemeSense

open Text

namespace Piece

/-- A piece that is never empty and has no blank. -/
def Solid (piece : Piece) : Prop :=
  ∀ part, piece.Accepts part → part ≠ [] ∧ ∀ c ∈ part, isBlank c = false

theorem solid_run {member : Char → Bool} (others : ∀ c, member c = true → isBlank c = false) : (run member).Solid :=
  fun _ accepted => ⟨accepted.1, fun c inside => others c (accepted.2 c inside)⟩

/-- The pieces of words of the given kinds, each behind blanks, and of one blank at the end. -/
def behind : List Piece → List Piece
  | [] => [SlotRule.blank]
  | kind :: kinds => SlotRule.blanks :: kind :: behind kinds

theorem starts_blank {piece : Piece} (isBlanks : piece = SlotRule.blank ∨ piece = SlotRule.blanks)
    {pieces : List Piece} {cs : List Char} (splits : Splits (piece :: pieces) cs) : Ends (!isBlank ·) cs := by
  obtain ⟨part, rest, rfl, accepted, _⟩ := splits
  rcases isBlanks with rfl | rfl
  · obtain ⟨c, rfl, blank⟩ := accepted
    exact ends_cons.mpr (by simp [blank])
  · exact ends_append accepted.1 fun c inside => by simp [accepted.2 c inside]

theorem starts_behind {kinds : List Piece} {cs : List Char} (splits : Splits (behind kinds) cs) :
    Ends (!isBlank ·) cs := by
  cases kinds with
  | nil => exact starts_blank (.inl rfl) splits
  | cons kind kinds => exact starts_blank (.inr rfl) splits

end Piece

/-- A word behind an at-rule, and the blanks before it. -/
structure Parameter where
  space : List Char
  word : List Char
  spaced : space ≠ [] ∧ ∀ c ∈ space, isBlank c = true ∧ c ≠ '\n'
  worded : word ≠ [] ∧ ∀ c ∈ word, SlotRule.isAliasChar c = true

namespace Parameter

def text (parameter : Parameter) : List Char :=
  parameter.space ++ parameter.word

theorem isBlank_of_isAliasChar {c : Char} (inAlias : SlotRule.isAliasChar c = true) : isBlank c = false := by
  simp only [SlotRule.isAliasChar, Bool.or_eq_true, beq_iff_eq] at inAlias
  rcases inAlias with alphanumeric | rfl
  · exact isBlank_of_isAlphanum alphanumeric
  · rfl

theorem word_solid (parameter : Parameter) : ∀ c ∈ parameter.word, isBlank c = false :=
  fun c inside => isBlank_of_isAliasChar (parameter.worded.2 c inside)

theorem ne_feed_of_word (parameter : Parameter) {c : Char} (inside : c ∈ parameter.word) : c ≠ '\n' := by
  rintro rfl
  exact absurd (parameter.word_solid _ inside) (by decide)

theorem accepts_run (parameter : Parameter) {member : Char → Bool}
    (wide : ∀ c, SlotRule.isAliasChar c = true → member c = true) : (Piece.run member).Accepts parameter.word :=
  ⟨parameter.worded.1, fun c inside => wide c (parameter.worded.2 c inside)⟩

theorem starts_texts (parameters : List Parameter) {last : Char} (ended : isBlank last = true) :
    Ends (!isBlank ·) (parameters.flatMap text ++ [last]) := by
  cases parameters with
  | nil => exact ends_cons.mpr (by simp [ended])
  | cons parameter parameters =>
    rw [List.flatMap_cons, text, List.append_assoc, List.append_assoc]
    exact ends_append parameter.spaced.1 fun c inside => by simp [(parameter.spaced.2 c inside).1]

/-- Words fall into pieces in one way only, each word into the piece at its place. -/
theorem splits_behind {kinds : List Piece} (solid : ∀ kind ∈ kinds, kind.Solid) (parameters : List Parameter)
    {last : Char} (ended : isBlank last = true) :
    Splits (Piece.behind kinds) (parameters.flatMap text ++ [last]) ↔
      List.Forall₂ Piece.Accepts kinds (parameters.map word) := by
  induction kinds generalizing parameters with
  | nil =>
    cases parameters with
    | nil => exact ⟨fun _ => .nil, fun _ => ⟨[last], [], rfl, ⟨last, rfl, ended⟩, rfl⟩⟩
    | cons parameter parameters =>
      constructor
      · rintro ⟨_, _, same, ⟨c, rfl, _⟩, rfl⟩
        have lengths := congrArg List.length same
        have positive := List.length_pos_iff.mpr parameter.spaced.1
        simp only [List.flatMap_cons, text, List.length_append, List.length_cons, List.length_nil] at lengths
        omega
      · intro related
        cases related
  | cons kind kinds ih =>
    obtain ⟨kindSolid, othersSolid⟩ := List.forall_mem_cons.mp solid
    cases parameters with
    | nil =>
      constructor
      · rintro ⟨space, _, same, ⟨spaceNonempty, _⟩, part, rest, rfl, accepted, _⟩
        have lengths := congrArg List.length same
        have spacePositive := List.length_pos_iff.mpr spaceNonempty
        have partPositive := List.length_pos_iff.mpr (kindSolid part accepted).1
        simp only [List.flatMap_nil, List.nil_append, List.length_append, List.length_cons, List.length_nil] at lengths
        omega
      · intro related
        cases related
    | cons parameter parameters =>
      have here : (parameter :: parameters).flatMap text ++ [last] =
          parameter.space ++ (parameter.word ++ (parameters.flatMap text ++ [last])) := by
        simp [text]
      have blankSpace : ∀ c ∈ parameter.space, isBlank c = true := fun c inside => (parameter.spaced.2 c inside).1
      have solidWord : ∀ c ∈ parameter.word, (!isBlank c) = true := fun c inside => by
        simp [parameter.word_solid c inside]
      rw [here, List.map_cons, List.forall₂_cons]
      constructor
      · rintro ⟨space, _, same, ⟨_, blank⟩, part, rest, rfl, accepted, others⟩
        obtain ⟨partNonempty, partSolid⟩ := kindSolid part accepted
        obtain ⟨_, sameRest⟩ := (ends_append parameter.worded.1 parameter.word_solid).unique
          (ends_append partNonempty partSolid) blankSpace blank same
        obtain ⟨rfl, rfl⟩ := (starts_texts parameters ended).unique (Piece.starts_behind others) solidWord
          (fun c inside => by simp [partSolid c inside]) sameRest
        exact ⟨accepted, (ih othersSolid parameters).mp others⟩
      · rintro ⟨accepted, related⟩
        exact ⟨parameter.space, _, rfl, ⟨parameter.spaced.1, blankSpace⟩, parameter.word, _, rfl, accepted,
          (ih othersSolid parameters).mpr related⟩

end Parameter

/-- The at-rules whose words have slots. -/
inductive AtRule where
  | color
  | font
  | fontsize
  | responsive
  | column
  | space

namespace AtRule

def keyword : AtRule → List Char
  | .color => "@color".toList
  | .font => "@font".toList
  | .fontsize => "@fontsize".toList
  | .responsive => "@responsive".toList
  | .column => "@column".toList
  | .space => "@space".toList

/-- A keyword has one sign, at its start, and no blank. -/
theorem keyword_eq (rule : AtRule) :
    ∃ name, rule.keyword = '@' :: name ∧ '@' ∉ name ∧ ∀ c ∈ rule.keyword, isBlank c = false := by
  cases rule <;> exact ⟨_, rfl, by decide, solid_of_all rfl⟩

/-- The slot behind an at-rule and the words that follow it. -/
def slot : AtRule → List (List Char) → Slot
  | .color, [] => .colorTarget
  | .color, [word] => if String.ofList word ∈ colorTargets then .colorValue else .outside
  | .font, [] => .fontFamily
  | .font, [_] => .fontSize
  | .font, [_, _] => .breakpoint
  | .fontsize, [] => .fontSize
  | .fontsize, [_] => .breakpoint
  | .responsive, _ => .breakpoint
  | .column, [_] => .breakpoint
  | .space, [_] => .spacingValue
  | .space, [_, _] => .breakpoint
  | _, _ => .outside

end AtRule

/-- A line with an at-rule, words behind it and one more blank. -/
structure Invocation where
  indent : List Char
  rule : AtRule
  parameters : List Parameter
  last : Char
  indented : ∀ c ∈ indent, isBlank c = true ∧ c ≠ '\n'
  ended : isBlank last = true

namespace Invocation

variable (invocation : Invocation)

def words : List (List Char) :=
  invocation.parameters.map Parameter.word

def tail : List Char :=
  invocation.parameters.flatMap Parameter.text ++ [invocation.last]

def line : List Char :=
  invocation.indent ++ invocation.rule.keyword ++ invocation.tail

theorem starts_tail : Ends (!isBlank ·) invocation.tail :=
  Parameter.starts_texts invocation.parameters invocation.ended

theorem mark_not_mem_tail : '@' ∉ invocation.tail := by
  simp only [tail, List.mem_append, List.mem_flatMap, List.mem_singleton, Parameter.text, not_or, not_exists, not_and]
  refine ⟨fun parameter _ => ⟨fun inSpace => ?_, fun inWord => ?_⟩, ?_⟩
  · exact absurd (parameter.spaced.2 _ inSpace).1 (by decide)
  · exact absurd (parameter.worded.2 _ inWord) (by decide)
  · intro same
    have blank := invocation.ended
    rw [← same] at blank
    cases blank

/-- A rule about an at-rule fits the line if it is about the line's own and fits what follows. -/
theorem fitsEnd_line {name : List Char} {pieces : List Piece} (solid : ∀ c ∈ '@' :: name, isBlank c = false)
    (blank : ∀ cs, Splits pieces cs → Ends (!isBlank ·) cs) :
    fitsEnd (.keyword ('@' :: name) :: pieces) invocation.line = true ↔
      '@' :: name = invocation.rule.keyword ∧ Splits pieces invocation.tail := by
  obtain ⟨own, keyword, once, ownSolid⟩ := invocation.rule.keyword_eq
  rw [fitsEnd_iff]
  constructor
  · rintro ⟨before, _, same, part, rest, rfl, rfl, others⟩
    have noMark : '@' ∉ invocation.indent := fun inside => absurd (invocation.indented _ inside).1 (by decide)
    have noOther : '@' ∉ own ++ invocation.tail := by
      rw [List.mem_append, not_or]
      exact ⟨once, invocation.mark_not_mem_tail⟩
    have marks : before ++ '@' :: (name ++ rest) = invocation.indent ++ '@' :: (own ++ invocation.tail) := by
      simpa [line, keyword] using same.symm
    have texts : '@' :: name ++ rest = invocation.rule.keyword ++ invocation.tail := by
      simpa [keyword] using (eq_of_one_separator noMark noOther marks).2
    obtain ⟨sameName, rfl⟩ := (blank rest others).unique invocation.starts_tail
      (fun c inside => by simp [solid c inside]) (fun c inside => by simp [ownSolid c inside]) texts
    exact ⟨sameName, others⟩
  · rintro ⟨same, others⟩
    refine ⟨invocation.indent, _, ?_, '@' :: name, invocation.tail, rfl, rfl, others⟩
    rw [same, line, List.append_assoc]

theorem head_trim_line : (trim invocation.line).head? = some '@' := by
  obtain ⟨own, keyword, _, _⟩ := invocation.rule.keyword_eq
  refine (head?_trim (by decide)).mpr ⟨invocation.indent, own ++ invocation.tail, ?_, ?_⟩
  · simp [line, keyword]
  · exact fun c inside => (invocation.indented c inside).1

theorem applies_line (rule : SlotRule) : rule.applies invocation.line = fitsEnd rule.pieces invocation.line := by
  simp [SlotRule.applies, invocation.head_trim_line]

end Invocation

/-- Every rule is about an at-rule, with a blank behind it. -/
theorem SlotRule.keyword_of_mem {rule : SlotRule} (member : rule ∈ all) :
    ∃ name pieces, rule.pieces = .keyword ('@' :: name) :: pieces ∧ (∀ c ∈ '@' :: name, isBlank c = false) ∧
      ∀ cs, Splits pieces cs → Ends (!isBlank ·) cs := by
  simp only [all, List.mem_cons, List.not_mem_nil, or_false] at member
  rcases member with rfl | rfl | rfl | rfl | rfl | rfl | rfl | rfl | rfl | rfl | rfl | rfl <;>
    exact ⟨_, _, rfl, solid_of_all rfl, fun _ => Piece.starts_blank (by simp)⟩

def SlotRule.keyword? (rule : SlotRule) : Option (List Char) :=
  match rule.pieces with
  | .keyword text :: _ => some text
  | _ => none

/-- The rules about an at-rule, in the order in which they are tried. -/
def AtRule.rules (rule : AtRule) : List SlotRule :=
  SlotRule.all.filter fun other => other.keyword? = some rule.keyword

/-- A class of characters that has those of aliases and no blank. -/
structure WordClass where
  member : Char → Bool
  wide : ∀ c, SlotRule.isAliasChar c = true → member c = true
  solid : ∀ c, member c = true → isBlank c = false

namespace WordClass

def word : WordClass where
  member := SlotRule.isAliasChar
  wide := fun _ => id
  solid := fun _ => Parameter.isBlank_of_isAliasChar

def property : WordClass where
  member := SlotRule.isPropertyChar
  wide := by
    intro c inAlias
    rw [SlotRule.isPropertyChar, Bool.or_eq_true]
    exact .inl inAlias
  solid := by
    intro c inside
    rw [SlotRule.isPropertyChar, Bool.or_eq_true, beq_iff_eq] at inside
    rcases inside with inAlias | rfl
    · exact Parameter.isBlank_of_isAliasChar inAlias
    · rfl

def length : WordClass where
  member := SlotRule.isLengthChar
  wide := by
    intro c inAlias
    simp only [SlotRule.isLengthChar, Bool.or_eq_true]
    exact .inl (.inl (by simpa [SlotRule.isAliasChar] using inAlias))
  solid := by
    intro c inside
    simp only [SlotRule.isLengthChar, Bool.or_eq_true, beq_iff_eq] at inside
    rcases inside with ((alphanumeric | rfl) | rfl) | rfl
    · exact isBlank_of_isAlphanum alphanumeric
    all_goals rfl

def unbroken : WordClass where
  member := (!isBlank ·)
  wide := fun _ inAlias => by simp [Parameter.isBlank_of_isAliasChar inAlias]
  solid := fun _ inside => by simpa using inside

end WordClass

/-- The rule for an at-rule and words of the given kinds. -/
def SlotRule.ofKinds (atRuleLine : Bool) (rule : AtRule) (kinds : List Piece) (slot : Slot) : SlotRule :=
  ⟨atRuleLine, .keyword rule.keyword :: Piece.behind kinds, slot⟩

/-- The rule for an at-rule and as many words as there are classes. -/
def SlotRule.ofClasses (rule : AtRule) (classes : List WordClass) (slot : Slot) : SlotRule :=
  .ofKinds true rule (classes.map fun words => .run words.member) slot

/-- The rule for `@responsive` and any words. -/
def SlotRule.responsive : SlotRule :=
  ⟨true, [.keyword AtRule.responsive.keyword, blanks, .run (· ≠ '\n'), blank], .breakpoint⟩

namespace AtRule

theorem rules_color : color.rules = [.ofKinds false color [] .colorTarget,
    .ofKinds false color [.choice (colorTargets.map String.toList)] .colorValue] := rfl

theorem rules_font : font.rules = [.ofClasses font [] .fontFamily, .ofClasses font [.word] .fontSize,
    .ofClasses font [.word, .word] .breakpoint] := rfl

theorem rules_fontsize : fontsize.rules = [.ofClasses fontsize [] .fontSize,
    .ofClasses fontsize [.word] .breakpoint] := rfl

theorem rules_responsive : responsive.rules = [.ofClasses responsive [] .breakpoint, .responsive] := rfl

theorem rules_column : column.rules = [.ofClasses column [.unbroken] .breakpoint] := by
  rw [rules]
  rfl

theorem rules_space : space.rules = [.ofClasses space [.property] .spacingValue,
    .ofClasses space [.property, .length] .breakpoint] := rfl

end AtRule

namespace Invocation

variable (invocation : Invocation)

/-- Only the rules about its own at-rule apply to a line. -/
theorem find_rules : SlotRule.all.find? (SlotRule.applies invocation.line) =
    invocation.rule.rules.find? (SlotRule.applies invocation.line) := by
  rw [AtRule.rules, List.find?_filter]
  refine List.find?_congr fun rule member => ?_
  obtain ⟨name, pieces, shape, solid, blank⟩ := SlotRule.keyword_of_mem member
  rw [Bool.eq_iff_iff, decide_eq_true_eq]
  refine ⟨fun applies => ⟨?_, applies⟩, And.right⟩
  have fitting := applies
  rw [applies_line, shape, fitsEnd_line invocation solid blank] at fitting
  simp [SlotRule.keyword?, shape, fitting.1]

theorem ofPrefix_line : Slot.ofPrefix invocation.line =
    ((invocation.rule.rules.find? (SlotRule.applies invocation.line)).map SlotRule.slot).getD .outside := by
  obtain ⟨own, keyword, _, _⟩ := invocation.rule.keyword_eq
  have lastChar : invocation.line.getLast? = some invocation.last := by
    simp [line, tail, ← List.append_assoc]
  have notMark : invocation.last ≠ '@' := by
    intro same
    have blank := invocation.ended
    rw [same] at blank
    cases blank
  have notBlank : invocation.line.all isBlank = false := by
    have inside : '@' ∈ invocation.line := by simp [line, keyword]
    rw [List.all_eq_false]
    exact ⟨'@', inside, by decide⟩
  rw [Slot.ofPrefix, lastChar, if_neg (by simpa using notMark), find_rules, notBlank]
  cases invocation.rule.rules.find? (SlotRule.applies invocation.line) <;> rfl

/-- A rule about words of some kinds applies if each word is of its kind. -/
theorem applies_ofKinds {kinds : List Piece} (solid : ∀ kind ∈ kinds, kind.Solid) (atRuleLine : Bool) (slot : Slot) :
    (SlotRule.ofKinds atRuleLine invocation.rule kinds slot).applies invocation.line = true ↔
      List.Forall₂ Piece.Accepts kinds invocation.words := by
  obtain ⟨own, keyword, _, ownSolid⟩ := invocation.rule.keyword_eq
  rw [applies_line, SlotRule.ofKinds, keyword,
    fitsEnd_line invocation (keyword ▸ ownSolid) fun _ => Piece.starts_behind, keyword, eq_self, true_and]
  exact Parameter.splits_behind solid invocation.parameters invocation.ended

theorem applies_ofClasses (classes : List WordClass) (slot : Slot) :
    (SlotRule.ofClasses invocation.rule classes slot).applies invocation.line =
      decide (invocation.words.length = classes.length) := by
  have solid : ∀ kind ∈ classes.map fun words => Piece.run words.member, kind.Solid := by
    intro kind member
    obtain ⟨words, _, rfl⟩ := List.mem_map.mp member
    exact Piece.solid_run words.solid
  rw [SlotRule.ofClasses, Bool.eq_iff_iff, decide_eq_true_eq, invocation.applies_ofKinds solid, List.forall₂_iff_zip,
    List.length_map]
  refine ⟨fun related => related.1.symm, fun same => ⟨same.symm, fun {kind word} pair => ?_⟩⟩
  obtain ⟨words, _, rfl⟩ := List.mem_map.mp (List.of_mem_zip pair).1
  obtain ⟨parameter, _, rfl⟩ := List.mem_map.mp (List.of_mem_zip pair).2
  exact parameter.accepts_run words.wide

/-- Behind `@color`, the slot of a value needs one word, which is a target. -/
theorem applies_colorValue (atRuleLine : Bool) (slot : Slot) :
    (SlotRule.ofKinds atRuleLine invocation.rule [.choice (colorTargets.map String.toList)] slot).applies
      invocation.line =
      decide (∃ target ∈ colorTargets, invocation.words = [target.toList]) := by
  have solid : ∀ kind ∈ [Piece.choice (colorTargets.map String.toList)], kind.Solid := by
    have targets : ∀ part ∈ colorTargets.map String.toList, part ≠ [] ∧ part.all (!isBlank ·) = true := by decide
    intro kind member
    rw [List.mem_singleton.mp member]
    exact fun part known => (targets part known).imp_right solid_of_all
  rw [Bool.eq_iff_iff, decide_eq_true_eq, invocation.applies_ofKinds solid]
  constructor
  · intro related
    generalize invocation.words = words at related
    cases related with
    | cons accepted none =>
      obtain ⟨target, member, rfl⟩ := List.mem_map.mp accepted
      cases none
      exact ⟨target, member, rfl⟩
  · rintro ⟨target, member, only⟩
    rw [only]
    exact .cons (List.mem_map_of_mem member) .nil

/-- Behind `@responsive`, everything up to the last blank can be one word. -/
theorem applies_responsive (isResponsive : invocation.rule = .responsive) (some : invocation.words ≠ []) :
    SlotRule.responsive.applies invocation.line = true := by
  obtain ⟨parameter, others, parameters⟩ := List.exists_cons_of_ne_nil (mt (congrArg (List.map Parameter.word)) some)
  have oneLine : ∀ c ∈ parameter.word ++ others.flatMap Parameter.text, c ≠ '\n' := by
    intro c inside
    rcases List.mem_append.mp inside with inWord | later
    · exact parameter.ne_feed_of_word inWord
    · obtain ⟨other, _, inText⟩ := List.mem_flatMap.mp later
      rcases List.mem_append.mp inText with inSpace | inWord
      · exact (other.spaced.2 c inSpace).2
      · exact other.ne_feed_of_word inWord
  rw [applies_line, SlotRule.responsive, ← isResponsive, fitsEnd_iff]
  refine ⟨invocation.indent, _, by rw [line, List.append_assoc], _, _, rfl, rfl, parameter.space, _, ?_,
    ⟨parameter.spaced.1, fun c inside => (parameter.spaced.2 c inside).1⟩, _, [invocation.last], rfl,
    ⟨?_, fun c inside => by simpa using oneLine c inside⟩, [invocation.last], [], rfl,
    ⟨invocation.last, rfl, invocation.ended⟩, rfl⟩
  · simp [tail, parameters, Parameter.text]
  · simp [parameter.worded.1]

/-- The slot behind an at-rule depends on nothing but the at-rule and the number of words, and behind
`@color` on whether the word is a target. -/
theorem slot_of_line : Slot.ofPrefix invocation.line = invocation.rule.slot invocation.words := by
  rw [ofPrefix_line]
  have classes := invocation.applies_ofClasses
  cases rule : invocation.rule with
  | color =>
    have noWord : (SlotRule.ofKinds false invocation.rule [] .colorTarget).applies invocation.line =
        decide (invocation.words = []) := by
      rw [Bool.eq_iff_iff, decide_eq_true_eq, invocation.applies_ofKinds (by simp)]
      exact List.forall₂_nil_left_iff
    have oneTarget := invocation.applies_colorValue false .colorValue
    rw [rule] at noWord oneTarget
    simp only [AtRule.rules_color, List.find?_cons, noWord, oneTarget]
    rcases invocation.words with _ | ⟨word, _ | ⟨_, _⟩⟩
    · simp [AtRule.slot, SlotRule.ofKinds]
    · have isTarget : (∃ target ∈ colorTargets, [word] = [target.toList]) ↔ String.ofList word ∈ colorTargets := by
        constructor
        · rintro ⟨target, member, same⟩
          rwa [List.singleton_inj.mp same, String.ofList_toList]
        · exact fun member => ⟨_, member, by rw [String.toList_ofList]⟩
      simp only [isTarget]
      by_cases member : String.ofList word ∈ colorTargets <;> simp [member, AtRule.slot, SlotRule.ofKinds]
    · simp [AtRule.slot]
  | font =>
    rw [rule] at classes
    simp only [AtRule.rules_font, List.find?_cons, classes]
    rcases invocation.words with _ | ⟨_, _ | ⟨_, _ | ⟨_, _⟩⟩⟩ <;>
      simp [AtRule.slot, SlotRule.ofClasses, SlotRule.ofKinds]
  | fontsize =>
    rw [rule] at classes
    simp only [AtRule.rules_fontsize, List.find?_cons, classes]
    rcases invocation.words with _ | ⟨_, _ | ⟨_, _⟩⟩ <;> simp [AtRule.slot, SlotRule.ofClasses, SlotRule.ofKinds]
  | responsive =>
    rw [rule] at classes
    by_cases none : invocation.words = []
    · have first := classes [] .breakpoint
      rw [none] at first
      rw [AtRule.rules_responsive, List.find?_cons_of_pos first]
      rfl
    · have second := invocation.applies_responsive rule none
      have first := classes [] .breakpoint
      rw [List.length_nil, decide_eq_false (mt List.length_eq_zero_iff.mp none)] at first
      rw [AtRule.rules_responsive, List.find?_cons_of_neg (by simp [first]), List.find?_cons_of_pos second]
      rfl
  | column =>
    rw [rule] at classes
    simp only [AtRule.rules_column, List.find?_cons, classes]
    rcases invocation.words with _ | ⟨_, _ | ⟨_, _⟩⟩ <;> simp [AtRule.slot, SlotRule.ofClasses, SlotRule.ofKinds]
  | space =>
    rw [rule] at classes
    simp only [AtRule.rules_space, List.find?_cons, classes]
    rcases invocation.words with _ | ⟨_, _ | ⟨_, _ | ⟨_, _⟩⟩⟩ <;>
      simp [AtRule.slot, SlotRule.ofClasses, SlotRule.ofKinds]

/-- Two words and two kinds of blanks behind `@space`, in a line that is indented. -/
theorem slot_of_line_behind_two_words :
    let property : Parameter := ⟨" ".toList, "margin".toList, by simp [isBlank], by simp [SlotRule.isAliasChar]⟩
    let size : Parameter := ⟨" \t".toList, "x2".toList, by simp [isBlank], by simp [SlotRule.isAliasChar]⟩
    let invocation : Invocation := ⟨"  ".toList, .space, [property, size], ' ', by simp [isBlank], by decide⟩
    invocation.line = "  @space margin \tx2 ".toList ∧ Slot.ofPrefix invocation.line = .breakpoint := by
  intro property size invocation
  exact ⟨rfl, invocation.slot_of_line⟩

end Invocation

end ThemeSense
