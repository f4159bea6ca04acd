import ThemeSense.Proofs.Script.Inlining

namespace ThemeSense.Script

theorem after?_append (start rest : List Char) : Text.after? start (start ++ rest) = some rest := by
  unfold Text.after?
  induction start with
  | nil => rfl
  | cons c start ih =>
    have step : (c :: start).isPrefixOf? (c :: (start ++ rest)) =
        if c == c then start.isPrefixOf? (start ++ rest) else none := rfl
    rw [List.cons_append, step, beq_self_eq_true, if_pos rfl]
    exact ih

theorem Trivium.dropWhile_semicolon (trivium : Trivium) (rest : List Char) :
    (trivium.text ++ rest).dropWhile (· = ';') = trivium.text ++ rest := by
  cases trivium with
  | blank c isBlank =>
    rcases isAsciiBlank_iff.mp isBlank with rfl | rfl | rfl | rfl | rfl <;> rfl
  | line content oneLine => rfl
  | block content unended => rfl

/-- A text that starts where a script exports its value, behind all directives. -/
structure AtExport (plain : List Char) : Prop where
  noSpace : skipTrivia plain = plain
  noSemicolon : plain.dropWhile (· = ';') = plain
  noSingle : dropDirective "'use strict'".toList plain = plain
  noDouble : dropDirective "\"use strict\"".toList plain = plain

theorem Export.atExport (exporting : Export) (rest : List Char) : AtExport (exporting.text ++ rest) := by
  cases exporting with
  | assignment gap isGap => exact ⟨rfl, rfl, rfl, rfl⟩
  | default => exact ⟨rfl, rfl, rfl, rfl⟩

namespace AtExport

variable {plain : List Char}

theorem after_semicolon (reached : AtExport plain) (trivia : Trivia) :
    skipTrivia ((Text.trimStart (';' :: (trivia.text ++ plain))).dropWhile (· = ';')) = plain := by
  have kept : Text.trimStart (';' :: (trivia.text ++ plain)) = ';' :: (trivia.text ++ plain) := rfl
  rw [kept, List.dropWhile_cons_of_pos (by decide)]
  cases trivia with
  | nil => exact (congrArg skipTrivia reached.noSemicolon).trans reached.noSpace
  | cons trivium trivia =>
    have spaced : (Trivia.text (trivium :: trivia) ++ plain).dropWhile (· = ';') =
        Trivia.text (trivium :: trivia) ++ plain := by
      rw [Trivia.text_cons, List.append_assoc]
      exact trivium.dropWhile_semicolon _
    rw [spaced, skipTrivia_text, reached.noSpace]

theorem drop_directive (reached : AtExport plain) (directive : Directive) :
    dropDirective "\"use strict\"".toList
      (dropDirective "'use strict'".toList (skipTrivia (directive.text ++ plain))) = plain := by
  obtain ⟨quote, isQuote, after⟩ := directive
  have text : Directive.text ⟨quote, isQuote, after⟩ ++ plain =
      quote :: ("use strict".toList ++ quote :: ';' :: (after.text ++ plain)) := by
    simp [Directive.text]
  rw [text]
  rcases isQuote with rfl | rfl
  · calc dropDirective "\"use strict\"".toList
          (skipTrivia ((Text.trimStart (';' :: (after.text ++ plain))).dropWhile (· = ';')))
        = dropDirective "\"use strict\"".toList plain := by rw [reached.after_semicolon]
      _ = plain := reached.noDouble
  · exact reached.after_semicolon after

end AtExport

theorem Export.after_assignment {gap : List Char} (isGap : gap.all isBlank = true) (rest : List Char) :
    Text.after? "module.exports".toList ((Export.assignment gap isGap).text ++ rest) = some (gap ++ '=' :: rest) ∧
      Text.after? ['='] (Text.trimStart (gap ++ '=' :: rest)) = some rest := by
  constructor
  · have split (word : List Char) : word ++ gap ++ ['='] ++ rest = word ++ (gap ++ '=' :: rest) := by simp
    exact (congrArg _ (split _)).trans (after?_append _ _)
  · rw [Text.trimStart, List.dropWhile_append_of_pos (List.all_eq_true.mp isGap)]
    exact after?_append ['='] rest

theorem Export.after_default (rest : List Char) :
    Text.after? "module.exports".toList (Export.default.text ++ rest) = none ∧
      Text.after? "export default".toList (Export.default.text ++ rest) = some rest :=
  ⟨rfl, after?_append _ _⟩

theorem Source.exportedExpression (source : Source) (rest : List Char) :
    Script.exportedExpression (source.header ++ rest) = .ok rest := by
  have reached := source.exporting.atExport rest
  have plain : dropDirective "\"use strict\"".toList (dropDirective "'use strict'".toList
      (skipTrivia (source.header ++ rest))) = source.exporting.text ++ rest := by
    rw [Source.header, List.append_assoc, skipTrivia_text, List.append_assoc]
    cases source.directive with
    | none =>
      rw [Option.elim_none, List.nil_append, reached.noSpace, reached.noSingle, reached.noDouble]
    | some directive => exact reached.drop_directive directive
  rw [Script.exportedExpression, plain]
  cases source.exporting with
  | assignment gap isGap =>
    obtain ⟨assigned, expression⟩ := Export.after_assignment isGap rest
    rw [assigned]
    dsimp only
    rw [expression]
  | default =>
    obtain ⟨unassigned, expression⟩ := Export.after_default rest
    rw [unassigned]
    dsimp only
    rw [expression]

theorem passed_semicolon {state : Inliner} (outside : state.frames = []) (start : Nat) (rest : List Char) :
    ∃ next, Passed state start [';'] rest [] [] state next := by
  have found : recognise start ';' rest = .ok (.semicolon, 0) := rfl
  obtain ⟨next, runs⟩ := state.run_char found
  refine ⟨next, runs.trans ?_, by simp, rfl, rfl⟩
  simp [Inliner.step, outside]

theorem Source.passed (source : Source) :
    ∃ after next, Passed .start 0 (Piece.allText source.pieces) [] (Piece.allInlined source.pieces)
      (source.value.thunks [] none) after next := by
  have passes := source.value.passes
  cases ending : source.ending with
  | none =>
    have stops : Stops [] := rfl
    obtain ⟨after, next, passed, _⟩ := passes.spaced source.lead source.after .start 0 stops rfl
    refine ⟨after, next, ?_⟩
    simpa [Source.pieces, ending, Piece.text, Piece.inlined, Inliner.start, framePath] using passed
  | some trivia =>
    have stops : Stops ([';'] ++ (trivia.text ++ [])) := rfl
    obtain ⟨middle, first, passed, _⟩ := passes.spaced source.lead source.after .start 0 stops rfl
    obtain ⟨second, semicolon⟩ := passed_semicolon passed.frames first (trivia.text ++ [])
    obtain ⟨next, trail⟩ := trivia.passed middle second []
    have whole := (passed.trans semicolon).trans trail
    refine ⟨middle.emit trivia.text, next, ?_⟩
    simpa [Source.pieces, ending, Piece.text, Piece.inlined, Inliner.start, framePath] using whole

theorem inline_of_run {script : String} {expression : List Char} {after : Inliner}
    (exported : exportedExpression script.toList = .ok expression)
    (runs : Inliner.start.run 0 expression = .ok after) : inline script = after.finish := by
  unfold Inliner.run at runs
  rw [inline, exported]
  cases found : lexemes 0 expression with
  | error e =>
    rw [found] at runs
    cases runs
  | ok pieces =>
    rw [found] at runs
    cases runs
    simp only [found]

theorem Source.inline_eq (source : Source) :
    inline (String.ofList source.text) =
      .ok ⟨String.ofList (Piece.allInlined source.pieces), source.value.thunks [] none⟩ := by
  have expression := source.exportedExpression (Piece.allText source.pieces)
  obtain ⟨after, next, passed⟩ := source.passed
  have runs : Inliner.start.run 0 (Piece.allText source.pieces) = .ok after := by
    simpa [Inliner.run_nil] using passed.runs
  rw [inline_of_run (by rw [String.toList_ofList]; exact expression) runs]
  simp [Inliner.finish, passed.frames, passed.out, passed.thunks, Inliner.start]

/-- Inlining is correct on the whole config language: it changes the expression in nothing but the
pieces that are dropped or get quotes, and records each function that is the value of a property
under its path. -/
theorem Source.inline_text (source : Source) :
    Script.exportedExpression source.text = .ok (Piece.allText source.pieces) ∧
      inline (String.ofList source.text) =
        .ok ⟨String.ofList (Piece.allInlined source.pieces), source.value.thunks [] none⟩ :=
  ⟨source.exportedExpression (Piece.allText source.pieces), source.inline_eq⟩

end ThemeSense.Script
