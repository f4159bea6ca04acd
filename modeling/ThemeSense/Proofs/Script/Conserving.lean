import ThemeSense.Proofs.Script.Inlining
import ThemeSense.Proofs.Script.Parts

namespace ThemeSense.Script

/-- What has been opened and not closed before a part, innermost first, and whether the key of a property is due.
A parenthesis is open only where it is the body of a function. -/
structure Nesting where
  opened : List Construct
  keyDue : Bool

namespace Nesting

def start : Nesting :=
  ⟨[], false⟩

/-- A closing delimiter leaves the innermost construct if it fits, and nothing otherwise. -/
def leave (nesting : Nesting) (kind : Construct) : Nesting :=
  ⟨if nesting.opened.head? = some kind then nesting.opened.tail else nesting.opened, false⟩

def after (nesting : Nesting) : Part → Nesting
  | .string _ => { nesting with keyDue := false }
  | .comment _ => nesting
  | .header _ opening _ =>
    { nesting with opened := (if opening = '[' then .array else .functionBody) :: nesting.opened }
  | .word _ _ _ => { nesting with keyDue := false }
  | .char c =>
    if c = '{' then ⟨.object :: nesting.opened, true⟩
    else if c = '[' then { nesting with opened := .array :: nesting.opened }
    else if c = '}' then nesting.leave .object
    else if c = ']' then nesting.leave .array
    else if c = ')' ∧ nesting.opened.head? = some .functionBody then nesting.leave .functionBody
    else if c = ',' then { nesting with keyDue := nesting.opened.head? = some .object }
    else nesting

end Nesting

/-- A part where it stands. -/
structure Place where
  before : Nesting
  part : Part

def places (nesting : Nesting) : List Part → List Place
  | [] => []
  | part :: parts => ⟨nesting, part⟩ :: places (nesting.after part) parts

namespace Place

/-- What is left of a part where it stands. -/
def kept (place : Place) : List Char :=
  match place.part with
  | .header _ opening _ => if opening = '[' then ['['] else []
  | .char c =>
    if c = ')' ∧ place.before.opened.head? = some .functionBody ∨ c = ';' ∧ place.before.opened = [] then []
    else [c]
  | part => part.text

/-- A key of an object that starts with a digit. -/
def isNumericKey (place : Place) : Bool :=
  match place.part with
  | .word name _ _ => place.before.keyDue && name.head?.any Char.isDigit
  | _ => false

def written (place : Place) : List Char :=
  if place.isNumericKey then '"' :: (place.kept ++ ['"']) else place.kept

/-- All that can go of a part: the header of a function with the parenthesis that opens its body, or without the
bracket that opens it, the parenthesis that closes the body of a function, and a semicolon outside of everything. -/
inductive Loses : Place → List Char → Prop
  | nothing (place : Place) : Loses place []
  | header (before : Nesting) (head : ArrowHead) : Loses ⟨before, .header head '(' (.inl rfl)⟩ (head.text ++ ['('])
  | listHeader (before : Nesting) (head : ArrowHead) : Loses ⟨before, .header head '[' (.inr rfl)⟩ head.text
  | bodyEnd (outer : List Construct) (keyDue : Bool) : Loses ⟨⟨.functionBody :: outer, keyDue⟩, .char ')'⟩ [')']
  | ending (keyDue : Bool) : Loses ⟨⟨[], keyDue⟩, .char ';'⟩ [';']

theorem loses (place : Place) : ∃ lost, place.Loses lost ∧ place.part.text = lost ++ place.kept := by
  obtain ⟨before, part⟩ := place
  cases part with
  | string literal => exact ⟨[], .nothing _, rfl⟩
  | comment remark => exact ⟨[], .nothing _, rfl⟩
  | word name nonempty isWord => exact ⟨[], .nothing _, rfl⟩
  | header head opening isOpening =>
    rcases isOpening with rfl | rfl
    · exact ⟨_, .header before head, by simp [Part.text, kept]⟩
    · exact ⟨_, .listHeader before head, by simp [Part.text, kept]⟩
  | char c =>
    by_cases dropped : c = ')' ∧ before.opened.head? = some .functionBody ∨ c = ';' ∧ before.opened = []
    · have none : kept ⟨before, .char c⟩ = [] := if_pos dropped
      rw [none]
      obtain ⟨opened, keyDue⟩ := before
      rcases dropped with ⟨rfl, inFunction⟩ | ⟨rfl, outside⟩
      · obtain ⟨outer, rfl⟩ := List.head?_eq_some_iff.mp inFunction
        exact ⟨_, .bodyEnd outer keyDue, rfl⟩
      · cases outside
        exact ⟨_, .ending keyDue, rfl⟩
    · have all : kept ⟨before, .char c⟩ = [c] := if_neg dropped
      exact ⟨[], .nothing _, by rw [all]; rfl⟩

theorem kept_sublist (place : Place) : place.kept.Sublist place.part.text := by
  obtain ⟨lost, _, split⟩ := place.loses
  rw [split]
  exact List.sublist_append_right lost place.kept

end Place

/-- Texts that stand in a text one after another, with anything between them. -/
inductive InOrder : List (List Char) → List Char → Prop
  | done (rest : List Char) : InOrder [] rest
  | next (before piece : List Char) {pieces : List (List Char)} {rest : List Char} (others : InOrder pieces rest) :
      InOrder (piece :: pieces) (before ++ (piece ++ rest))

theorem InOrder.behind {pieces : List (List Char)} {text : List Char} (inOrder : InOrder pieces text)
    (first : List Char) : InOrder pieces (first ++ text) := by
  cases inOrder with
  | done => exact .done _
  | next before piece others =>
    rw [← List.append_assoc]
    exact .next (first ++ before) piece others

/-- The strings and the comments, but for the comments in the header of a function. -/
def Part.verbatim? : Part → Option (List Char)
  | .string literal => some literal.text
  | .comment remark => some remark.text
  | _ => none

/-- What inlining writes of the parts of a text. -/
def allWritten (nesting : Nesting) (parts : List Part) : List Char :=
  (places nesting parts).flatMap Place.written

theorem allWritten_concat (nesting : Nesting) (passed : List Part) (part : Part) :
    allWritten nesting (passed ++ [part]) =
      allWritten nesting passed ++ Place.written ⟨passed.foldl Nesting.after nesting, part⟩ := by
  induction passed generalizing nesting with
  | nil => exact List.append_nil _
  | cons first passed ih =>
    have others := ih (nesting.after first)
    simp only [allWritten] at others
    simp only [allWritten, List.cons_append, places, List.flatMap_cons, others, List.foldl_cons, List.append_assoc]

theorem allKept_sublist (nesting : Nesting) (parts : List Part) :
    ((places nesting parts).flatMap Place.kept).Sublist (Part.allText parts) := by
  induction parts generalizing nesting with
  | nil => exact List.Sublist.refl []
  | cons part parts ih => exact (Place.kept_sublist ⟨nesting, part⟩).append (ih (nesting.after part))

theorem inOrder_allWritten (nesting : Nesting) (parts : List Part) :
    InOrder (parts.filterMap Part.verbatim?) (allWritten nesting parts) := by
  induction parts generalizing nesting with
  | nil => exact .done _
  | cons part parts ih =>
    have others := ih (nesting.after part)
    cases part with
    | string literal => exact .next [] literal.text others
    | comment remark => exact .next [] remark.text others
    | header head opening isOpening => exact others.behind _
    | word name nonempty isWord => exact others.behind _
    | char c => exact others.behind _

namespace Inliner

def nesting (state : Inliner) : Nesting :=
  ⟨state.frames.map (·.kind), state.expectKey⟩

theorem head?_opened (state : Inliner) : state.nesting.opened.head? = state.topKind :=
  List.head?_map

theorem close_out (state : Inliner) (kind : Construct) (text : List Char) :
    (state.close kind text).out.toList = state.out.toList ++ text := by
  unfold close
  dsimp only
  split
  · rw [pop_out]
    exact state.emit_out text
  · exact state.emit_out text

theorem pop_nesting {state : Inliner} {kind : Construct} (top : state.topKind = some kind) :
    state.pop.nesting = state.nesting.leave kind := by
  obtain ⟨frame, atTop, rfl⟩ := Option.map_eq_some_iff.mp top
  obtain ⟨outer, frames⟩ := List.head?_eq_some_iff.mp atTop
  simp [nesting, Nesting.leave, pop_frames frames, pop_expectKey frames, frames]

theorem close_nesting (state : Inliner) (kind : Construct) (text : List Char) :
    (state.close kind text).nesting = state.nesting.leave kind := by
  unfold close
  dsimp only
  split
  · next fits => exact pop_nesting fits
  · next misfit =>
    have stays : state.nesting.opened.head? ≠ some kind := by rw [head?_opened]; exact misfit
    rw [Nesting.leave, if_neg stays]
    rfl

/-- Inlining has written `text` and goes on with `nesting`. -/
structure Writes (before : Inliner) (text : List Char) (nesting : Nesting) (after : Inliner) : Prop where
  out : after.out.toList = before.out.toList ++ text
  nesting : after.nesting = nesting

theorem writes_emit (state : Inliner) (text : List Char) : state.Writes text state.nesting (state.emit text) :=
  ⟨state.emit_out text, rfl⟩

theorem writes_close (state : Inliner) (kind : Construct) (text : List Char) :
    state.Writes text (state.nesting.leave kind) (state.close kind text) :=
  ⟨state.close_out kind text, state.close_nesting kind text⟩

theorem writes_string (state : Inliner) (text : List Char) (start : Nat) :
    state.Writes text { state.nesting with keyDue := false } (state.step ⟨.quoted, start, text⟩) := by
  obtain ⟨out, frames, _, expectKey⟩ := step_quoted state start text
  exact ⟨out, by simp only [nesting, frames, expectKey]⟩

theorem writes_word (state : Inliner) (name : List Char) (start : Nat) :
    state.Writes (if state.expectKey && startsWithDigit name then '"' :: (name ++ ['"']) else name)
      { state.nesting with keyDue := false } (state.step ⟨.word, start, name⟩) := by
  cases due : state.expectKey with
  | false =>
    have copied : state.step ⟨.word, start, name⟩ = state.emit name := by simp [step, due]
    have noKey : { state.nesting with keyDue := false } = state.nesting := by simp [nesting, due]
    rw [copied, noKey]
    exact state.writes_emit name
  | true =>
    have taken : state.step ⟨.word, start, name⟩ =
        (state.emit (if startsWithDigit name then '"' :: (name ++ ['"']) else name)).takeKey name := by
      simp [step, due]
    rw [taken]
    exact ⟨state.emit_out _, rfl⟩

theorem writes_parenClose (state : Inliner) (start : Nat) :
    state.Writes (Place.kept ⟨state.nesting, .char ')'⟩) (state.nesting.after (.char ')'))
      (state.step ⟨.parenClose, start, [')']⟩) := by
  by_cases inFunction : state.topKind = some .functionBody
  · have popped : state.step ⟨.parenClose, start, [')']⟩ = state.pop := if_pos inFunction
    have top := state.head?_opened.trans inFunction
    have dropped : Place.kept ⟨state.nesting, .char ')'⟩ = [] := if_pos (.inl ⟨rfl, top⟩)
    have left : state.nesting.after (.char ')') = state.nesting.leave .functionBody := if_pos ⟨rfl, top⟩
    rw [popped, dropped, left]
    exact ⟨by rw [pop_out, List.append_nil], pop_nesting inFunction⟩
  · have copied : state.step ⟨.parenClose, start, [')']⟩ = state.emit [')'] := if_neg inFunction
    have top : state.nesting.opened.head? ≠ some .functionBody := by rwa [head?_opened]
    have all : Place.kept ⟨state.nesting, .char ')'⟩ = [')'] := by simp [Place.kept, top]
    have same : state.nesting.after (.char ')') = state.nesting := by simp [Nesting.after, top]
    rw [copied, all, same]
    exact state.writes_emit [')']

theorem writes_semicolon (state : Inliner) (start : Nat) :
    state.Writes (Place.kept ⟨state.nesting, .char ';'⟩) state.nesting (state.step ⟨.semicolon, start, [';']⟩) := by
  by_cases outside : state.frames = []
  · have skipped : state.step ⟨.semicolon, start, [';']⟩ = state := by simp [step, outside]
    have dropped : Place.kept ⟨state.nesting, .char ';'⟩ = [] := by simp [Place.kept, nesting, outside]
    rw [skipped, dropped]
    exact ⟨(List.append_nil _).symm, rfl⟩
  · have copied : state.step ⟨.semicolon, start, [';']⟩ = state.emit [';'] := by simp [step, outside]
    have all : Place.kept ⟨state.nesting, .char ';'⟩ = [';'] := by simp [Place.kept, nesting, outside]
    rw [copied, all]
    exact state.writes_emit [';']

theorem writes_other (state : Inliner) {c : Char} (plain : c ∉ Part.delimiters) (start : Nat) :
    state.Writes (Place.kept ⟨state.nesting, .char c⟩) (state.nesting.after (.char c))
      (state.step ⟨.other, start, [c]⟩) := by
  simp only [Part.delimiters, List.mem_cons, List.not_mem_nil, or_false, not_or] at plain
  have all : Place.kept ⟨state.nesting, .char c⟩ = [c] := by simp [Place.kept, plain]
  have same : state.nesting.after (.char c) = state.nesting := by simp [Nesting.after, plain]
  rw [all, same]
  exact state.writes_emit [c]

/-- One step writes what is written of the part, and is then where the nesting says. -/
theorem writes_part (state : Inliner) {part : Part} {kind : LexemeKind} (hasKind : part.HasKind kind) (start : Nat) :
    state.Writes (Place.written ⟨state.nesting, part⟩) (state.nesting.after part)
      (state.step ⟨kind, start, part.text⟩) := by
  cases hasKind with
  | string literal => exact state.writes_string literal.text start
  | comment remark => exact state.writes_emit remark.text
  | arrowParen head body => exact ⟨(List.append_nil _).symm, rfl⟩
  | arrowBracket head body => exact ⟨(state.push .array state.bodyStart body).emit_out ['['], rfl⟩
  | word name nonempty isWord => exact state.writes_word name start
  | braceOpen => exact ⟨(state.push .object none start).emit_out ['{'], rfl⟩
  | braceClose => exact state.writes_close .object ['}']
  | bracketOpen => exact ⟨(state.push .array none start).emit_out ['['], rfl⟩
  | bracketClose => exact state.writes_close .array [']']
  | parenClose => exact state.writes_parenClose start
  | comma =>
    refine ⟨state.emit_out [','], ?_⟩
    simp [step, nesting, topKind, Nesting.after]
  | semicolon => exact state.writes_semicolon start
  | other plain => exact state.writes_other plain start

theorem run_cons_ok {state final : Inliner} {start : Nat} {c : Char} {rest : List Char}
    (runs : state.run start (c :: rest) = .ok final) :
    ∃ kind taken, recognise start c rest = .ok (kind, taken) ∧
      (state.step ⟨kind, start, c :: rest.take taken⟩).run (start + Text.bytes (c :: rest.take taken))
        (rest.drop taken) =
        .ok final := by
  cases found : recognise start c rest with
  | error e =>
    rw [run, lexemes, found] at runs
    cases runs
  | ok recognised =>
    obtain ⟨kind, taken⟩ := recognised
    exact ⟨kind, taken, rfl, by rw [← state.run_recognised found, runs]⟩

/-- What every step keeps, a whole run keeps, over the parts into which the text falls, whatever it is. -/
theorem run_parts (holds : Inliner → List Part → Prop)
    (step : ∀ {state : Inliner} {passed : List Part} {part : Part} {kind : LexemeKind}, holds state passed →
      part.ReadAs kind (Text.bytes (Part.allText passed)) →
      holds (state.step ⟨kind, Text.bytes (Part.allText passed), part.text⟩) (passed ++ [part]))
    {state final : Inliner} {passed : List Part} {text : List Char} (before : holds state passed)
    (runs : state.run (Text.bytes (Part.allText passed)) text = .ok final) :
    ∃ parts, Part.IsCutBefore [] parts ∧ text = Part.allText parts ∧ holds final (passed ++ parts) := by
  -- a part is of any length, so the induction is on the length of the text
  induction length : text.length using Nat.strongRecOn generalizing text state passed with
  | ind n ih =>
    cases text with
    | nil =>
      rw [run_nil] at runs
      cases runs
      exact ⟨[], trivial, rfl, by rwa [List.append_nil]⟩
    | cons c rest =>
      obtain ⟨kind, taken, found, goesOn⟩ := run_cons_ok runs
      obtain ⟨part, readAs, here, whole⟩ := Part.readAs_of_recognise found
      have place : Text.bytes (Part.allText passed) + Text.bytes part.text =
          Text.bytes (Part.allText (passed ++ [part])) := by
        have single : Part.allText [part] = part.text := List.flatMap_singleton ..
        rw [Part.allText_append, Text.bytes_append, single]
      rw [← here, place] at goesOn
      have shorter : (rest.drop taken).length < n := by
        rw [← length, List.length_drop, List.length_cons]
        omega
      obtain ⟨parts, cut, left, final⟩ := ih _ shorter (step before readAs) goesOn rfl
      rw [List.append_assoc] at final
      rw [left] at whole
      refine ⟨part :: parts, ⟨by rwa [List.append_nil], cut⟩, ?_, final⟩
      calc c :: rest = (c :: rest.take taken) ++ rest.drop taken := by simp
        _ = part.text ++ Part.allText parts := by rw [here, left]

theorem Writes.concat {before after : Inliner} {passed : List Part} {part : Part} {kind : LexemeKind} (start : Nat)
    (writes : before.Writes (allWritten before.nesting passed) (passed.foldl Nesting.after before.nesting) after)
    (hasKind : part.HasKind kind) :
    before.Writes (allWritten before.nesting (passed ++ [part])) ((passed ++ [part]).foldl Nesting.after before.nesting)
      (after.step ⟨kind, start, part.text⟩) := by
  have step := after.writes_part hasKind start
  rw [writes.nesting] at step
  refine ⟨?_, by rw [step.nesting, List.foldl_concat]⟩
  rw [step.out, writes.out, allWritten_concat, List.append_assoc]

/-- A run writes what is written of each part. -/
theorem run_writes {state final : Inliner} {text : List Char} (runs : state.run 0 text = .ok final) :
    ∃ parts, Part.IsCutBefore [] parts ∧ text = Part.allText parts ∧
      final.out.toList = state.out.toList ++ allWritten state.nesting parts := by
  let written (after : Inliner) (passed : List Part) : Prop :=
    state.Writes (allWritten state.nesting passed) (passed.foldl Nesting.after state.nesting) after
  have nothing : written state [] := ⟨(List.append_nil _).symm, rfl⟩
  obtain ⟨parts, cut, split, writes⟩ :=
    run_parts written (fun writes readAs => Writes.concat _ writes readAs.hasKind) nothing runs
  exact ⟨parts, cut, split, writes.out⟩

end Inliner

theorem run_of_inline {script : String} {result : Inlined} (inlined : inline script = .ok result) :
    ∃ expression final, exportedExpression script.toList = .ok expression ∧
      Inliner.start.run 0 expression = .ok final ∧ final.finish = .ok result := by
  unfold inline at inlined
  split at inlined
  · cases inlined
  · next expression exported =>
    split at inlined
    · cases inlined
    · next pieces found =>
      exact ⟨expression, _, exported, by rw [Inliner.run, found]; rfl, inlined⟩

theorem source_of_finish {final : Inliner} {result : Inlined} (finished : final.finish = .ok result) :
    result.source.toList = final.out.toList := by
  unfold Inliner.finish at finished
  split at finished
  · cases finished
    exact String.toList_ofList
  · cases finished

/-- What `source` has of the parts into which `expression` falls. Nothing goes but for a reason, and the strings and
comments are all there as they were. -/
structure Conserves (expression source : List Char) (parts : List Part) : Prop where
  cut : Part.IsCutBefore [] parts
  text : expression = Part.allText parts
  written : source = allWritten .start parts
  /-- What is written, but for the quotes around numeric keys, stands in the expression in the same order. -/
  kept : ((places .start parts).flatMap Place.kept).Sublist expression
  lost : ∀ place ∈ places .start parts, ∃ lost, place.Loses lost ∧ place.part.text = lost ++ place.kept
  verbatim : InOrder (parts.filterMap Part.verbatim?) source

/-- Inlining neither loses nor invents text, on any script that it accepts. -/
theorem inline_conserves_text {script : String} {result : Inlined} (inlined : inline script = .ok result) :
    ∃ expression parts, exportedExpression script.toList = .ok expression ∧
      Conserves expression result.source.toList parts := by
  obtain ⟨expression, final, exported, runs, finished⟩ := run_of_inline inlined
  obtain ⟨parts, cut, text, out⟩ := Inliner.run_writes runs
  have written : result.source.toList = allWritten .start parts := (source_of_finish finished).trans out
  refine ⟨expression, parts, exported, cut, text, written, ?_, fun place _ => place.loses, ?_⟩
  · rw [text]
    exact allKept_sublist .start parts
  · rw [written]
    exact inOrder_allWritten .start parts

theorem inline_conserves_text_of_malformed_script :
    inline "module.exports=\x7b1a:'\x7d;',f:(/*(*/)=>((\x7b2:[1\x7d)];\x7d)),//)\n\x7d;])" =
        .ok ⟨"\x7b\"1a\":'\x7d;',f:(\x7b\"2\":[1\x7d)];\x7d),//)\n\x7d])", [⟨"f", "(\x7b\"2\":[1\x7d)];\x7d"⟩]⟩ ∧
      ∃ expression parts,
        exportedExpression "module.exports=\x7b1a:'\x7d;',f:(/*(*/)=>((\x7b2:[1\x7d)];\x7d)),//)\n\x7d;])".toList =
          .ok expression ∧
          Conserves expression "\x7b\"1a\":'\x7d;',f:(\x7b\"2\":[1\x7d)];\x7d),//)\n\x7d])".toList parts := by
  have inlined : inline "module.exports=\x7b1a:'\x7d;',f:(/*(*/)=>((\x7b2:[1\x7d)];\x7d)),//)\n\x7d;])" =
      .ok ⟨"\x7b\"1a\":'\x7d;',f:(\x7b\"2\":[1\x7d)];\x7d),//)\n\x7d])", [⟨"f", "(\x7b\"2\":[1\x7d)];\x7d"⟩]⟩ := by
    with_unfolding_all rfl
  exact ⟨inlined, inline_conserves_text inlined⟩

end ThemeSense.Script
