import ThemeSense.Proofs.Script.Conserving
import ThemeSense.Proofs.Text.Position

namespace ThemeSense.Script

def Error.offset? : Error → Option Nat
  | .missingExport => none
  | .unterminated _ offset => some offset
  | .templateLiteral offset => some offset
  | .blockBody offset => some offset
  | .unsupportedArrow offset => some offset

/-- A string without its opening quote that is not closed. It runs into the end of the text, be it with a backslash
that has nothing to escape, or into a line end that is not escaped. -/
inductive Unclosed (quote : Char) : List Char → Prop
  | atEnd {content : List Char} (fits : fitsQuotes quote content = true) : Unclosed quote content
  | atBackslash {content : List Char} (fits : fitsQuotes quote content = true) : Unclosed quote (content ++ ['\\'])
  | atLineEnd {content : List Char} (fits : fitsQuotes quote content = true) (rest : List Char) :
      Unclosed quote (content ++ '\n' :: rest)

/-- Space and comments up to the end of the text, of which the last comment may not have ended. -/
inductive RunsOut : List Char → Prop
  | atEnd : RunsOut []
  | lineComment {content : List Char} (oneLine : '\n' ∉ content) : RunsOut ('/' :: '/' :: content)
  | blockComment {content : List Char} (unended : ¬ ['*', '/'] <:+: content) : RunsOut ('/' :: '*' :: content)
  | trivium (first : Trivium) {rest : List Char} (others : RunsOut rest) : RunsOut (first.text ++ rest)

/-- A text that starts with neither space nor a comment. -/
def Solid (text : List Char) : Prop :=
  ∀ (trivium : Trivium) (rest : List Char), text ≠ trivium.text ++ rest

namespace Part

/-- The part opens a construct with a delimiter that stands in it behind `lead`. -/
inductive Opens : Part → Construct → List Char → Char → Prop
  | brace : Opens (.char '{') .object [] '{'
  | bracket : Opens (.char '[') .array [] '['
  | paren (head : ArrowHead) : Opens (.header head '(' (.inl rfl)) .functionBody head.text '('
  | listBracket (head : ArrowHead) : Opens (.header head '[' (.inr rfl)) .array head.text '['

end Part

/-- A place that is inside no part: inside no string, no comment, no header of a function and no word. -/
structure Reaches (expression : List Char) (parts : List Part) (rest : List Char) : Prop where
  text : expression = Part.allText parts ++ rest
  cut : Part.IsCutBefore rest parts

/-- What is open behind the parts, innermost first. -/
def opened (parts : List Part) : List Construct :=
  (parts.foldl Nesting.after .start).opened

/-- One of the parts has opened a construct inside those of `outer`, with the delimiter at `start`, and it has been
open ever since. -/
inductive OpenSince (kind : Construct) (outer : List Construct) (start : Nat) : List Part → Prop
  | intro {before behind : List Part} {part : Part} {lead : List Char} {delimiter : Char}
      (outside : opened before = outer)
      (opens : part.Opens kind lead delimiter) (offset : start = Text.bytes (Part.allText before ++ lead))
      (stays : ∀ middle rest, behind = middle ++ rest → kind :: outer <:+ opened (before ++ part :: middle)) :
      OpenSince kind outer start (before ++ part :: behind)

/-- What each error says about the expression, at the place that it points at. -/
inductive Cause (expression : List Char) : Error → Prop
  | string {parts : List Part} {quote : Char} {rest : List Char} (reached : Reaches expression parts (quote :: rest))
      (isQuote : quote = '\'' ∨ quote = '"') (unclosed : Unclosed quote rest) :
      Cause expression (.unterminated .string (Text.bytes (Part.allText parts)))
  | comment {parts : List Part} {rest : List Char} (reached : Reaches expression parts ('/' :: '*' :: rest))
      (unended : ¬ ['*', '/'] <:+: rest) : Cause expression (.unterminated .comment (Text.bytes (Part.allText parts)))
  | leftOpen {parts : List Part} {kind : Construct} {outer : List Construct} {start : Nat}
      (cut : Part.IsCutBefore [] parts)
      (text : expression = Part.allText parts) (since : OpenSince kind outer start parts)
      (innermost : opened parts = kind :: outer) : Cause expression (.unterminated kind start)
  | template {parts : List Part} {rest : List Char} (reached : Reaches expression parts ('\x60' :: rest)) :
      Cause expression (.templateLiteral (Text.bytes (Part.allText parts)))
  | block {parts : List Part} {head : ArrowHead} {rest : List Char}
      (reached : Reaches expression parts (head.text ++ '{' :: rest)) :
      Cause expression (.blockBody (Text.bytes (Part.allText parts ++ head.text)))
  | body {parts : List Part} {head : ArrowHead} {c : Char} {rest : List Char}
      (reached : Reaches expression parts (head.text ++ c :: rest)) (solid : Solid (c :: rest))
      (other : c ∉ ['(', '[', '{']) :
      Cause expression (.unsupportedArrow (Text.bytes (Part.allText parts ++ head.text)))
  | noBody {parts : List Part} {inParens beforeArrow : Trivia} {rest : List Char}
      (reached : Reaches expression parts ('(' :: inParens.text ++ ')' :: beforeArrow.text ++ '=' :: '>' :: rest))
      (runsOut : RunsOut rest) : Cause expression (.unsupportedArrow (Text.bytes expression))

theorem Unclosed.cons {quote : Char} (lead : List Char) {rest : List Char} (unclosed : Unclosed quote rest)
    (goesOn : ∀ {content}, fitsQuotes quote content = true → fitsQuotes quote (lead ++ content) = true) :
    Unclosed quote (lead ++ rest) := by
  cases unclosed with
  | atEnd fits => exact .atEnd (goesOn fits)
  | atBackslash fits =>
    rw [← List.append_assoc]
    exact .atBackslash (goesOn fits)
  | atLineEnd fits rest =>
    rw [← List.append_assoc]
    exact .atLineEnd (goesOn fits) rest

theorem unclosed_of_quotedLength? {quote : Char} {rest : List Char} (endless : quotedLength? quote rest = none) :
    Unclosed quote rest := by
  fun_induction quotedLength? quote rest with
  | case1 => exact .atEnd rfl
  | case2 c rest ih => exact (ih (Option.map_eq_none_iff.mp endless)).cons ['\\', c] fun fits => fits
  | case3 rest =>
    have nothing : fitsQuotes quote [] = true := rfl
    exact .atLineEnd nothing rest
  | case4 => cases endless
  | case5 c rest noEscape noLineEnd noQuote ih =>
    have inside := ih (Option.map_eq_none_iff.mp endless)
    by_cases escape : c = '\\'
    · subst escape
      cases rest with
      | nil =>
        have nothing : fitsQuotes quote [] = true := rfl
        exact .atBackslash nothing
      | cons d rest => exact absurd rfl (noEscape d rest rfl)
    · refine inside.cons [c] fun {content} fits => ?_
      rw [List.singleton_append, fitsQuotes]
      · simp [noLineEnd, noQuote, fits]
      · exact fun same => absurd same escape
      · exact fun _ _ same => absurd same escape

theorem unended_of_commentLength? {rest : List Char} (endless : commentLength? rest = none) :
    ¬ ['*', '/'] <:+: rest := by
  fun_induction commentLength? rest with
  | case1 => cases endless
  | case2 c rest goesOn ih =>
    refine unended_cons (ih (Option.map_eq_none_iff.mp endless)) ?_
    rintro more rfl rfl
    exact goesOn more rfl rfl
  | case3 => simp

/-- Nothing is left of the text, in code or from inside a comment, which may be the one that has not ended. -/
def TriviaState.RunsOut (cs : List Char) : TriviaState → Prop
  | .code => Script.RunsOut cs
  | .lineComment => '\n' ∉ cs ∨ ∃ content rest, '\n' ∉ content ∧ cs = content ++ '\n' :: rest ∧ Script.RunsOut rest
  | .blockComment => ¬ ['*', '/'] <:+: cs ∨
      ∃ content rest, ¬ ['*', '/'] <:+: content ∧ cs = content ++ '*' :: '/' :: rest ∧ Script.RunsOut rest

theorem RunsOut.line {content rest : List Char} (oneLine : '\n' ∉ content) (others : RunsOut rest) :
    RunsOut ('/' :: '/' :: (content ++ '\n' :: rest)) := by
  simpa [Trivium.text] using RunsOut.trivium (.line content oneLine) others

theorem RunsOut.block {content rest : List Char} (unended : ¬ ['*', '/'] <:+: content) (others : RunsOut rest) :
    RunsOut ('/' :: '*' :: (content ++ '*' :: '/' :: rest)) := by
  simpa [Trivium.text] using RunsOut.trivium (.block content unended) others

theorem runsOut_dropTrivia {state : TriviaState} {cs : List Char} (none : dropTrivia state cs = []) :
    state.RunsOut cs := by
  fun_induction dropTrivia state cs with
  | case1 state =>
    cases state with
    | code => exact .atEnd
    | lineComment => exact .inl List.not_mem_nil
    | blockComment => exact .inl (by simp)
  | case2 rest ih =>
    rcases ih none with oneLine | ⟨content, tail, oneLine, rfl, others⟩
    · exact .lineComment oneLine
    · exact .line oneLine others
  | case3 rest ih =>
    rcases ih none with unended | ⟨content, tail, unended, rfl, others⟩
    · exact .blockComment unended
    · exact .block unended others
  | case4 c rest _ _ blank ih => exact .trivium (.blank c blank) (ih none)
  | case5 => cases none
  | case6 c rest ih =>
    by_cases lineEnd : c = '\n'
    · simp only [if_pos lineEnd] at none ih
      exact .inr ⟨[], rest, List.not_mem_nil, by rw [lineEnd]; rfl, ih none⟩
    · simp only [if_neg lineEnd] at none ih
      have oneMore {content : List Char} (oneLine : '\n' ∉ content) : '\n' ∉ c :: content := by
        rw [List.mem_cons, not_or]
        exact ⟨Ne.symm lineEnd, oneLine⟩
      rcases ih none with oneLine | ⟨content, tail, oneLine, rfl, others⟩
      · exact .inl (oneMore oneLine)
      · exact .inr ⟨c :: content, tail, oneMore oneLine, rfl, others⟩
  | case7 rest ih => exact .inr ⟨[], rest, by simp, rfl, ih none⟩
  | case8 c rest goesOn ih =>
    rcases ih none with unended | ⟨content, tail, unended, rfl, others⟩
    · refine .inl (unended_cons unended ?_)
      rintro more rfl rfl
      exact goesOn more rfl rfl
    · refine .inr ⟨c :: content, tail, unended_cons unended ?_, rfl, others⟩
      rintro more rfl rfl
      exact goesOn _ rfl rfl

theorem length_dropTrivia (state : TriviaState) (cs : List Char) : (dropTrivia state cs).length ≤ cs.length := by
  fun_induction dropTrivia state cs with
  | case1 => exact le_rfl
  | case5 => exact le_rfl
  | case2 rest ih | case3 rest ih | case7 rest ih =>
    simp only [List.length_cons]
    omega
  | case4 c rest _ _ _ ih | case6 c rest ih | case8 c rest _ ih =>
    simp only [List.length_cons]
    omega

theorem solid_of_skipTrivia {cs rest : List Char} {c : Char} (skipped : skipTrivia cs = c :: rest) :
    Solid (c :: rest) := by
  intro trivium tail same
  obtain ⟨trivia, rfl⟩ := trivia_of_skipTrivia skipped
  rw [skipTrivia_text] at skipped
  have again : skipTrivia (Trivia.text [trivium] ++ tail) = c :: rest := by
    rw [Trivia.text_cons, Trivia.text_nil, List.append_nil, ← same, skipped]
  rw [skipTrivia_text] at again
  have shorter := length_dropTrivia .code tail
  rw [← skipTrivia, again, same, List.length_append] at shorter
  have positive : 0 < trivium.text.length := by cases trivium <;> simp [Trivium.text]
  omega

/-- Where a body is sought, an arrow stands before it, and it is what comes behind space and comments there. -/
theorem arrow_of_arrowBody? {rest body : List Char} (found : arrowBody? rest = some body) :
    ∃ (inParens beforeArrow : Trivia) (more : List Char),
      rest = inParens.text ++ ')' :: (beforeArrow.text ++ '=' :: '>' :: more) ∧ skipTrivia more = body := by
  unfold arrowBody? at found
  split at found
  · next close atClose =>
    split at found
    · next more atArrow =>
      obtain ⟨inParens, one⟩ := trivia_of_skipTrivia atClose
      obtain ⟨beforeArrow, two⟩ := trivia_of_skipTrivia atArrow
      exact ⟨inParens, beforeArrow, more, by rw [one, two], Option.some.inj found⟩
    · cases found
  · cases found

theorem ArrowHead.bytes_text (head : ArrowHead) : Text.bytes head.text = 1 + Text.bytes head.rest := rfl

theorem bytes_behind_head (before : List Char) (head : ArrowHead) :
    Text.bytes before + 1 + Text.bytes head.rest = Text.bytes (before ++ head.text) := by
  rw [Text.bytes_append, head.bytes_text, Nat.add_assoc]

theorem cause_of_paren {expression rest : List Char} {parts : List Part} {e : Error}
    (reached : Reaches expression parts ('(' :: rest))
    (failed : recogniseParen (Text.bytes (Part.allText parts)) rest = .error e) : Cause expression e := by
  unfold recogniseParen at failed
  split at failed
  · cases failed
  · next body atBody =>
    split at failed
    · cases failed
    · cases failed
    · next tail =>
      obtain ⟨head, rfl⟩ := head_of_arrowBody? atBody
      cases failed
      rw [head.take_rest, bytes_behind_head]
      exact .block reached
    · next noParen noBracket noBrace =>
      cases failed
      cases body with
      | nil =>
        obtain ⟨inParens, beforeArrow, more, same, skipped⟩ := arrow_of_arrowBody? atBody
        have paren : '('.utf8Size = 1 := rfl
        have whole : Text.bytes (Part.allText parts) + 1 +
            Text.bytes (rest.take (rest.length - ([] : List Char).length)) =
            Text.bytes expression := by
          rw [List.length_nil, Nat.sub_zero, List.take_length, reached.text, Text.bytes_append, Text.bytes_cons, paren]
          omega
        rw [whole]
        rw [same] at reached
        exact .noBody (by simpa using reached) (runsOut_dropTrivia skipped)
      | cons c tail =>
        obtain ⟨_, _, _, _, skipped⟩ := arrow_of_arrowBody? atBody
        obtain ⟨head, rfl⟩ := head_of_arrowBody? atBody
        rw [head.take_rest, bytes_behind_head]
        refine .body reached (solid_of_skipTrivia skipped) ?_
        simp only [List.mem_cons, List.not_mem_nil, or_false, not_or]
        exact ⟨fun same => noParen tail (by rw [same]), fun same => noBracket tail (by rw [same]),
          fun same => noBrace tail (by rw [same])⟩

theorem error_of_ite {p : Prop} [Decidable p] {found : LexemeKind × Nat} {otherwise : Except Error (LexemeKind × Nat)}
    {e : Error} (failed : (if p then .ok found else otherwise) = .error e) : otherwise = .error e := by
  by_cases holds : p
  · rw [if_pos holds] at failed
    cases failed
  · rwa [if_neg holds] at failed

theorem cause_of_recognise {expression rest : List Char} {parts : List Part} {c : Char} {e : Error}
    (reached : Reaches expression parts (c :: rest))
    (failed : recognise (Text.bytes (Part.allText parts)) c rest = .error e) : Cause expression e := by
  by_cases isQuote : c = '\'' ∨ c = '"'
  · rw [recognise, if_pos isQuote] at failed
    cases endless : quotedLength? c rest with
    | none =>
      rw [endless] at failed
      cases failed
      exact .string reached isQuote (unclosed_of_quotedLength? endless)
    | some length =>
      rw [endless] at failed
      cases failed
  by_cases template : c = '\x60'
  · subst template
    cases failed
    exact .template reached
  by_cases block : c = '/' ∧ rest.head? = some '*'
  · obtain ⟨rfl, star⟩ := block
    obtain ⟨rest, rfl⟩ := List.head?_eq_some_iff.mp star
    rw [recognise, if_neg isQuote, if_neg template, if_neg (by simp), if_pos ⟨rfl, star⟩] at failed
    cases endless : commentLength? rest with
    | none =>
      rw [List.drop_one, List.tail_cons, endless] at failed
      cases failed
      exact .comment reached (unended_of_commentLength? endless)
    | some length =>
      rw [List.drop_one, List.tail_cons, endless] at failed
      cases failed
  by_cases paren : c = '('
  · subst paren
    exact cause_of_paren reached failed
  rw [recognise, if_neg isQuote, if_neg template, if_neg block, if_neg paren] at failed
  -- all that is left are nine ways to be a lexeme
  iterate 9 replace failed := error_of_ite failed
  cases failed

/-- Cutting a text into lexemes fails at a place that is inside no part. -/
theorem reaches_of_error {start : Nat} {text : List Char} {e : Error} (failed : lexemes start text = .error e) :
    ∃ parts c rest, Reaches text parts (c :: rest) ∧
      recognise (start + Text.bytes (Part.allText parts)) c rest = .error e := by
  -- a part is of any length, so the induction is on the length of the text
  induction length : text.length using Nat.strongRecOn generalizing text start with
  | ind n ih =>
    cases text with
    | nil =>
      rw [lexemes] at failed
      cases failed
    | cons c rest =>
      rw [lexemes] at failed
      cases found : recognise start c rest with
      | error e' =>
        rw [found] at failed
        cases failed
        exact ⟨[], c, rest, ⟨rfl, trivial⟩, found⟩
      | ok recognised =>
        obtain ⟨kind, taken⟩ := recognised
        obtain ⟨part, hasKind, here, whole⟩ := Part.of_recognise found
        have failedLater : lexemes (start + Text.bytes (c :: rest.take taken)) (rest.drop taken) = .error e := by
          cases later : lexemes (start + Text.bytes (c :: rest.take taken)) (rest.drop taken) with
          | error e' => simpa only [found, later] using failed
          | ok pieces =>
            simp only [found, later] at failed
            cases failed
        have shorter : (rest.drop taken).length < n := by
          rw [← length, List.length_drop, List.length_cons]
          omega
        obtain ⟨parts, d, more, reached, failedThere⟩ := ih _ shorter failedLater rfl
        rw [reached.text] at whole
        refine ⟨part :: parts, d, more, ⟨?_, whole, reached.cut⟩, ?_⟩
        · calc c :: rest = (c :: rest.take taken) ++ rest.drop taken := by simp
            _ = part.text ++ (Part.allText parts ++ d :: more) := by rw [here, ← reached.text]
            _ = Part.allText (part :: parts) ++ d :: more := by rw [Part.allText_cons, List.append_assoc]
        · have place : start + Text.bytes (Part.allText (part :: parts)) =
              start + Text.bytes (c :: rest.take taken) + Text.bytes (Part.allText parts) := by
            rw [Part.allText_cons, Text.bytes_append, ← here, Nat.add_assoc]
          rw [place, failedThere]

section Frames

variable {state : Inliner} {part : Part} {passed : List Part}

/-- What has been open goes on being open if the next part does not close it. -/
theorem OpenSince.concat {kind : Construct} {outer : List Construct} {start : Nat}
    (since : OpenSince kind outer start passed)
    (still : kind :: outer <:+ opened (passed ++ [part])) : OpenSince kind outer start (passed ++ [part]) := by
  obtain ⟨outside, opens, offset, stays⟩ := since
  rw [List.append_assoc, List.cons_append] at still ⊢
  refine .intro outside opens offset fun middle rest split => ?_
  rcases rest.eq_nil_or_concat with rfl | ⟨front, last, rfl⟩
  · rw [List.append_nil] at split
    rwa [← split]
  · rw [List.concat_eq_append, ← List.append_assoc] at split
    exact stays middle front (List.append_inj_left' split rfl)

theorem Inliner.pop_frames_suffix (state : Inliner) : state.pop.frames <:+ state.frames := by
  unfold pop
  split
  · exact List.suffix_rfl
  · next frame outer top =>
    rw [top]
    exact List.suffix_cons frame outer

theorem Inliner.close_frames_suffix (state : Inliner) (kind : Construct) (text : List Char) :
    (state.close kind text).frames <:+ state.frames := by
  unfold close
  dsimp only
  split
  · exact pop_frames_suffix _
  · exact List.suffix_rfl

/-- A part opens one more frame, whose delimiter stands where it says, or leaves the frames that it does not close. -/
theorem Inliner.step_frames (state : Inliner) {kind : LexemeKind} {start : Nat} (readAs : part.ReadAs kind start) :
    (∃ frame lead delimiter, (state.step ⟨kind, start, part.text⟩).frames = frame :: state.frames ∧
        part.Opens frame.kind lead delimiter ∧ frame.start = start + Text.bytes lead) ∨
      (state.step ⟨kind, start, part.text⟩).frames <:+ state.frames := by
  obtain ⟨hasKind, atBody⟩ := readAs
  cases hasKind with
  | string literal =>
    obtain ⟨_, frames, _⟩ := step_quoted state start literal.text
    rw [Part.text, frames]
    exact .inr List.suffix_rfl
  | comment remark => exact .inr List.suffix_rfl
  | arrowParen head body =>
    have offset := atBody body (.inl rfl)
    rw [Part.text, Text.bytes_append] at offset
    exact .inl ⟨_, head.text, '(', rfl, .paren head, Nat.succ.inj offset⟩
  | arrowBracket head body =>
    have offset := atBody body (.inr rfl)
    rw [Part.text, Text.bytes_append] at offset
    exact .inl ⟨_, head.text, '[', rfl, .listBracket head, Nat.succ.inj offset⟩
  | word name nonempty isWord =>
    have frames : (state.step ⟨.word, start, name⟩).frames = state.frames := by
      cases due : state.expectKey <;> simp [step, takeKey, due]
    rw [Part.text, frames]
    exact .inr List.suffix_rfl
  | braceOpen => exact .inl ⟨_, [], '{', rfl, .brace, rfl⟩
  | braceClose => exact .inr (state.close_frames_suffix .object ['}'])
  | bracketOpen => exact .inl ⟨_, [], '[', rfl, .bracket, rfl⟩
  | bracketClose => exact .inr (state.close_frames_suffix .array [']'])
  | parenClose =>
    right
    by_cases inFunction : state.topKind = some .functionBody
    · have popped : state.step ⟨.parenClose, start, [')']⟩ = state.pop := if_pos inFunction
      rw [Part.text, popped]
      exact state.pop_frames_suffix
    · have copied : state.step ⟨.parenClose, start, [')']⟩ = state.emit [')'] := if_neg inFunction
      rw [Part.text, copied]
      exact List.suffix_rfl
  | comma => exact .inr List.suffix_rfl
  | semicolon =>
    have frames : (state.step ⟨.semicolon, start, [';']⟩).frames = state.frames := by
      cases outside : state.frames.isEmpty <;> simp [step, outside]
    rw [Part.text, frames]
    exact .inr List.suffix_rfl
  | other plain => exact .inr List.suffix_rfl

/-- The state of inlining behind some parts: every frame is the construct that one of them has opened. -/
structure Tracks (state : Inliner) (passed : List Part) : Prop where
  nesting : state.nesting = passed.foldl Nesting.after .start
  frames : ∀ frame outer, frame :: outer <:+ state.frames →
    OpenSince frame.kind (outer.map (·.kind)) frame.start passed

theorem tracks_start : Tracks .start [] := by
  refine ⟨rfl, fun frame outer inside => ?_⟩
  cases List.suffix_nil.mp inside

theorem Tracks.opened_eq (tracks : Tracks state passed) : opened passed = state.frames.map (·.kind) := by
  rw [opened, ← tracks.nesting]
  rfl

theorem Tracks.step (tracks : Tracks state passed) {kind : LexemeKind}
    (readAs : part.ReadAs kind (Text.bytes (Part.allText passed))) :
    Tracks (state.step ⟨kind, Text.bytes (Part.allText passed), part.text⟩) (passed ++ [part]) := by
  have nesting : (state.step ⟨kind, Text.bytes (Part.allText passed), part.text⟩).nesting =
      (passed ++ [part]).foldl Nesting.after .start := by
    rw [(state.writes_part readAs.hasKind _).nesting, tracks.nesting, List.foldl_concat]
  have now : opened (passed ++ [part]) =
      (state.step ⟨kind, Text.bytes (Part.allText passed), part.text⟩).frames.map (·.kind) := by
    rw [opened, ← nesting]
    rfl
  -- a frame that was open before and is open now has not been closed by this part
  have stays {frame : Frame} {outer : List Frame} (before : frame :: outer <:+ state.frames)
      (after : frame :: outer <:+ (state.step ⟨kind, Text.bytes (Part.allText passed), part.text⟩).frames) :
      OpenSince frame.kind (outer.map (·.kind)) frame.start (passed ++ [part]) := by
    refine (tracks.frames frame outer before).concat ?_
    rw [now]
    exact after.map (·.kind)
  refine ⟨nesting, fun frame outer inside => ?_⟩
  rcases state.step_frames readAs with ⟨newest, lead, delimiter, frames, opens, start⟩ | fewer
  · rw [frames] at inside stays now
    rcases List.suffix_cons_iff.mp inside with same | before
    · cases same
      refine .intro tracks.opened_eq opens (by rw [start, Text.bytes_append]) fun middle rest split => ?_
      obtain ⟨rfl, rfl⟩ := List.append_eq_nil_iff.mp split.symm
      rw [now]
      exact List.suffix_rfl
    · exact stays before inside
  · exact stays (inside.trans fewer) inside

end Frames

theorem error_of_exportedExpression {script : List Char} {e : Error} (failed : exportedExpression script = .error e) :
    e = .missingExport := by
  unfold exportedExpression at failed
  dsimp only at failed
  split at failed
  · split at failed
    · cases failed
    · cases failed
      rfl
  · split at failed
    · cases failed
    · cases failed
      rfl

theorem Part.Opens.text_eq {part : Part} {kind : Construct} {lead : List Char} {delimiter : Char}
    (opens : part.Opens kind lead delimiter) : part.text = lead ++ [delimiter] := by
  cases opens <;> rfl

/-- An error that has a cause points into the expression or at its end. -/
theorem Cause.offset_le {expression : List Char} {e : Error} (cause : Cause expression e) :
    ∃ offset, e.offset? = some offset ∧ offset ≤ Text.bytes expression := by
  cases cause with
  | string reached | comment reached | template reached =>
    refine ⟨_, rfl, ?_⟩
    rw [reached.text, Text.bytes_append]
    exact Nat.le_add_right _ _
  | block reached | body reached =>
    refine ⟨_, rfl, ?_⟩
    rw [reached.text, ← List.append_assoc, Text.bytes_append (_ ++ _)]
    exact Nat.le_add_right _ _
  | noBody => exact ⟨_, rfl, le_rfl⟩
  | leftOpen cut text since innermost =>
    obtain ⟨outside, opens, rfl, stays⟩ := since
    refine ⟨_, rfl, ?_⟩
    rw [text, Part.allText_append, Part.allText_cons, opens.text_eq]
    simp only [Text.bytes_append]
    omega

/-- Every error but that of a missing export points at its cause. -/
theorem errors_point_at_cause {script : String} {e : Error} (failed : inline script = .error e)
    (exports : e ≠ .missingExport) :
    ∃ expression offset, exportedExpression script.toList = .ok expression ∧ e.offset? = some offset ∧
      offset ≤ Text.bytes expression ∧ Cause expression e := by
  suffices caused : ∃ expression, exportedExpression script.toList = .ok expression ∧ Cause expression e by
    obtain ⟨expression, exported, cause⟩ := caused
    obtain ⟨offset, points, inside⟩ := cause.offset_le
    exact ⟨expression, offset, exported, points, inside, cause⟩
  unfold inline at failed
  split at failed
  · next missing =>
    cases failed
    exact absurd (error_of_exportedExpression missing) exports
  · next expression exported =>
    refine ⟨expression, exported, ?_⟩
    split at failed
    · next wrong =>
      cases failed
      obtain ⟨parts, c, rest, reached, failedThere⟩ := reaches_of_error wrong
      rw [Nat.zero_add] at failedThere
      exact cause_of_recognise reached failedThere
    · next pieces cut =>
      have runs : Inliner.start.run 0 expression = .ok (pieces.foldl Inliner.step Inliner.start) := by
        rw [Inliner.run, cut]
        rfl
      obtain ⟨parts, cut, text, tracks⟩ :=
        Inliner.run_parts Tracks (fun before readAs => before.step readAs) tracks_start runs
      unfold Inliner.finish at failed
      split at failed
      · cases failed
      · next frame outer frames =>
        cases failed
        refine .leftOpen cut text (tracks.frames frame outer (frames ▸ List.suffix_rfl)) ?_
        exact tracks.opened_eq.trans (by rw [frames]; rfl)

/-- Closing delimiters that do not fit leave the bracket open that the body of the function starts with. -/
theorem errors_point_at_cause_behind_misfits :
    inline "module.exports=\x7ba:(/*(*/)=>([1\x7d)" = .error (.unterminated .array 13) ∧
      ∃ expression offset, exportedExpression "module.exports=\x7ba:(/*(*/)=>([1\x7d)".toList = .ok expression ∧
        (Error.unterminated .array 13).offset? = some offset ∧ offset ≤ Text.bytes expression ∧
        Cause expression (.unterminated .array 13) := by
  have failed : inline "module.exports=\x7ba:(/*(*/)=>([1\x7d)" = .error (.unterminated .array 13) := by
    with_unfolding_all rfl
  exact ⟨failed, errors_point_at_cause failed (by simp)⟩

end ThemeSense.Script
