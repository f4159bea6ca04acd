import ThemeSense.Proofs.Script.ByteReading
import ThemeSense.Proofs.Script.Passage

namespace ThemeSense.Script

open Text (utf8 firstByte Shows)

section InBytes

/-- The frame with the start of its body counted in bytes. -/
def Frame.inBytes (out : List Char) (frame : Frame) : Frame :=
  { frame with bodyStart := frame.bodyStart.map fun count => Text.bytes (out.take count) }

namespace Inliner

def inBytes (state : Inliner) : Inliner :=
  { state with frames := state.frames.map (Frame.inBytes state.out.toList) }

/-- Every body starts within what has been written. -/
def Bounded (state : Inliner) : Prop :=
  ∀ frame ∈ state.frames, ∀ count ∈ frame.bodyStart, count ≤ state.out.toList.length

variable {state : Inliner}

theorem Bounded.emit (bounded : state.Bounded) (text : List Char) : (state.emit text).Bounded := by
  intro frame member count start
  rw [emit_out, List.length_append]
  exact (bounded frame member count start).trans (Nat.le_add_right _ _)

theorem Bounded.push (bounded : state.Bounded) (kind : Construct) {bodyStart : Option Nat}
    (inside : ∀ count ∈ bodyStart, count ≤ state.out.toList.length) (start : Nat) :
    (state.push kind bodyStart start).Bounded :=
  List.forall_mem_cons.mpr ⟨inside, bounded⟩

theorem le_of_bodyStart : ∀ count ∈ state.bodyStart, count ≤ state.out.toList.length := by
  intro count start
  obtain ⟨_, _, rfl⟩ := Option.map_eq_some_iff.mp start
  exact le_rfl

theorem Bounded.takeKey (bounded : state.Bounded) (key : List Char) : (state.takeKey key).Bounded :=
  bounded

theorem Bounded.pop (bounded : state.Bounded) : state.pop.Bounded := by
  unfold Inliner.pop
  split
  · exact bounded
  · next frame outer frames =>
    rw [Bounded, frames, List.forall_mem_cons] at bounded
    exact bounded.2

theorem Bounded.close (bounded : state.Bounded) (kind : Construct) (text : List Char) :
    (state.close kind text).Bounded := by
  have written : Bounded { state.emit text with expectKey := false } := bounded.emit text
  unfold Inliner.close
  dsimp only
  split
  · exact written.pop
  · exact written

/-- What has been open starts where it started, however much is written behind it. -/
theorem Bounded.step (bounded : state.Bounded) (lexeme : Lexeme) : (state.step lexeme).Bounded := by
  have none : ∀ count ∈ (none : Option Nat), count ≤ state.out.toList.length := by simp
  obtain ⟨kind, start, text⟩ := lexeme
  cases kind with
  | quoted =>
    cases due : state.expectKey
    · simpa [Inliner.step, due] using bounded.emit text
    · simpa [Inliner.step, due] using (bounded.emit text).takeKey (text.drop 1).dropLast
  | comment | other => exact bounded.emit text
  | braceOpen => exact (bounded.push .object none start).emit text
  | bracketOpen => exact (bounded.push .array none start).emit text
  | braceClose => exact bounded.close .object text
  | bracketClose => exact bounded.close .array text
  | arrowParen body => exact bounded.push .functionBody le_of_bodyStart body
  | arrowBracket body => exact (bounded.push .array le_of_bodyStart body).emit ['[']
  | parenClose =>
    by_cases inFunction : state.topKind = some .functionBody
    · simpa [Inliner.step, inFunction] using bounded.pop
    · simpa [Inliner.step, inFunction] using bounded.emit text
  | comma => exact bounded.emit text
  | semicolon =>
    cases outside : state.frames.isEmpty
    · simpa [Inliner.step, outside] using bounded.emit text
    · simpa [Inliner.step, outside] using bounded
  | word =>
    cases due : state.expectKey
    · simpa [Inliner.step, due] using bounded.emit text
    · simpa [Inliner.step, due] using
        (bounded.emit (if startsWithDigit text then '"' :: text ++ ['"'] else text)).takeKey text

theorem bounded_start : Inliner.start.Bounded := by
  intro frame member
  cases member

theorem inBytes_emit (bounded : state.Bounded) (text : List Char) :
    (state.emit text).inBytes = state.inBytes.emit text := by
  have frames : state.frames.map (Frame.inBytes (state.out.toList ++ text)) =
      state.frames.map (Frame.inBytes state.out.toList) := by
    refine List.map_congr_left fun frame member => ?_
    have same : frame.bodyStart.map (fun count => Text.bytes ((state.out.toList ++ text).take count)) =
        frame.bodyStart.map (fun count => Text.bytes (state.out.toList.take count)) := by
      refine Option.map_congr fun count start => ?_
      rw [List.take_append_of_le_length (bounded frame member count start)]
    rw [Frame.inBytes, same]
    rfl
  rw [inBytes, emit_out, emit_frames, frames]
  rfl

theorem topKind_inBytes (state : Inliner) : state.inBytes.topKind = state.topKind := by
  cases frames : state.frames <;> simp [topKind, inBytes, frames, Frame.inBytes]

theorem path_inBytes (out : List Char) (frames : List Frame) (key : String) :
    path (frames.map (Frame.inBytes out)) key = path frames key := by
  rw [path, List.filterMap_map]
  rfl

theorem inBytes_push_body (state : Inliner) (kind : Construct) (start : Nat) :
    (state.push kind state.bodyStart start).inBytes =
      state.inBytes.push kind (state.inBytes.pendingKey.map fun _ => Text.bytes state.inBytes.out.toList) start := by
  have whole : state.bodyStart.map (fun count => Text.bytes (state.out.toList.take count)) =
      state.pendingKey.map fun _ => Text.bytes state.out.toList := by
    rw [bodyStart, Option.map_map]
    cases state.pendingKey with
    | none => rfl
    | some key =>
      rw [Option.map_some, Option.map_some, Function.comp_apply, ← Array.length_toList, List.take_length]
  exact congrArg (state.inBytes.push kind · start) whole

theorem finish_inBytes (state : Inliner) : state.inBytes.finish = state.finish := by
  cases frames : state.frames <;> simp [finish, inBytes, frames, Frame.inBytes]

/-- Where no key is due, a word can be copied character by character. -/
theorem run_keyChar (value : state.expectKey = false) (start : Nat) {c : Char} (key : isKeyChar c = true)
    (rest : List Char) :
    state.run start (c :: rest) = (state.emit [c]).run (start + 1) rest := by
  have step {state : Inliner} (value : state.expectKey = false) (start : Nat) (text : List Char) :
      state.step ⟨.word, start, text⟩ = state.emit text := by simp [Inliner.step, value]
  have here : Text.bytes [c] = 1 := by
    rw [Text.bytes_cons, Text.utf8Size_of_ascii (isKeyChar_ascii c key)]
    rfl
  rw [state.run_recognised (recognise_word start key rest), step value]
  cases rest with
  | nil => rw [List.takeWhile_nil, List.length_nil, List.take_zero, List.drop_zero, here]
  | cons d rest =>
    by_cases later : isKeyChar d = true
    · have place (word : List Char) : start + Text.bytes (c :: d :: word) = start + 1 + Text.bytes (d :: word) := by
        rw [← List.singleton_append, Text.bytes_append, here, Nat.add_assoc]
      have value : (state.emit [c]).expectKey = false := value
      rw [(state.emit [c]).run_recognised (recognise_word (start + 1) later rest), step value, emit_emit,
        List.takeWhile_cons_of_pos later, List.length_cons, List.take_succ_cons, List.drop_succ_cons, place]
      rfl
    · rw [List.takeWhile_cons_of_neg later, List.length_nil, List.take_zero, List.drop_zero, here]

end Inliner

/-- A body is cut out of the output between characters. -/
theorem Scanner.finishFrame_inBytes (state : Inliner) : Scanner.finishFrame state.inBytes = .ok state.pop.inBytes := by
  cases frames : state.frames with
  | nil => simp [finishFrame, Inliner.pop, Inliner.inBytes, frames]
  | cons frame outer =>
    obtain ⟨kind, key, bodyStart, start⟩ := frame
    cases key with
    | none => simp [finishFrame, Inliner.pop, Inliner.inBytes, frames, Frame.inBytes]
    | some key =>
      cases bodyStart with
      | none => simp [finishFrame, Inliner.pop, Inliner.inBytes, frames, Frame.inBytes]
      | some count =>
        have body : cutFrom state.out.toList (Text.bytes (state.out.toList.take count)) =
            .ok (state.out.toList.drop count) :=
          cutFrom_eq (List.take_append_drop ..).symm rfl
        simp only [finishFrame, Inliner.pop, Inliner.inBytes, frames, Frame.inBytes, List.map_cons,
          Option.map_some, body,
          bind, Except.bind, Inliner.path_inBytes]

end InBytes

namespace Scanner

section Copying

variable (before : List Char) (made : Inliner)

theorem copyChar_utf8 (c : Char) (rest : List Char) :
    copyChar (before ++ c :: rest) ⟨Text.bytes before, made⟩ = .ok ⟨Text.bytes (before ++ [c]), made.emit [c]⟩ := by
  have piece : cutFrom (before ++ c :: rest) (Text.bytes before) = .ok (c :: rest) := cutFrom_eq rfl rfl
  simp only [copyChar, piece, bind, Except.bind, Text.bytes_append, Text.bytes_cons, Text.bytes_nil, Nat.add_zero]

theorem drop_quote {quote : Char} (isQuote : quote = '\'' ∨ quote = '"') (rest : List Char) :
    (utf8 (before ++ quote :: rest)).drop (Text.bytes before + 1) = utf8 rest := by
  have size : quote.utf8Size = 1 := by rcases isQuote with rfl | rfl <;> rfl
  have behind := Text.drop_utf8 (before ++ [quote]) rest
  rwa [Text.bytes_append, Text.bytes_cons, size, List.append_assoc] at behind

theorem copyString_closed {quote : Char} (isQuote : quote = '\'' ∨ quote = '"') {rest : List Char} {count : Nat}
    (closed : quotedLength? quote rest = some count) :
    copyString (before ++ quote :: rest) ⟨Text.bytes before, made⟩ quote.toUInt8 =
      .ok ⟨Text.bytes (before ++ quote :: rest.take count),
        if made.expectKey then (made.emit (quote :: rest.take count)).takeKey (rest.take count).dropLast
        else made.emit (quote :: rest.take count)⟩ := by
  have size : quote.utf8Size = 1 := by rcases isQuote with rfl | rfl <;> rfl
  obtain ⟨content, taken, found⟩ := closing?_of_quotedLength? isQuote closed
  have split : rest = content ++ [quote] ++ rest.drop count := by rw [← taken, List.take_append_drop]
  have stop : Text.bytes before + 1 + Text.bytes content + 1 = Text.bytes (before ++ quote :: rest.take count) := by
    rw [taken]
    simp only [Text.bytes_append, Text.bytes_cons, size, Text.bytes_nil]
    omega
  have text : cut (before ++ quote :: rest) (Text.bytes before) (Text.bytes (before ++ quote :: rest.take count)) =
      .ok (quote :: rest.take count) :=
    cut_eq (by rw [List.append_assoc, List.cons_append, List.take_append_drop]) rfl rfl
  have key : cut (before ++ quote :: rest) (Text.bytes before + 1) (Text.bytes before + 1 + Text.bytes content) =
      .ok content := by
    have start := bytes_concat before size
    have whole : before ++ quote :: rest = before ++ [quote] ++ content ++ quote :: rest.drop count :=
      calc before ++ quote :: rest = before ++ quote :: (content ++ [quote] ++ rest.drop count) := by rw [← split]
        _ = before ++ [quote] ++ content ++ quote :: rest.drop count := by simp
    exact cut_eq whole start (by rw [start, Text.bytes_append _ content])
  have unquoted : (rest.take count).dropLast = content := by rw [taken, List.dropLast_concat]
  simp only [copyString, drop_quote before isQuote, found, stop, text, key, bind, Except.bind,
    Inliner.emit_expectKey, unquoted]
  split <;> rfl

theorem copyString_open {quote : Char} (isQuote : quote = '\'' ∨ quote = '"') {rest : List Char}
    (endless : quotedLength? quote rest = none) :
    copyString (before ++ quote :: rest) ⟨Text.bytes before, made⟩ quote.toUInt8 =
      .error (.error (.unterminated .string (Text.bytes before))) := by
  have missing := closing?_utf8 isQuote rest
  rw [endless, Option.map_none, Option.map_eq_none_iff] at missing
  simp only [copyString, drop_quote before isQuote, missing]

theorem copyComment_line (rest : List Char) :
    copyComment (before ++ '/' :: '/' :: rest) ⟨Text.bytes before, made⟩ =
      .ok ⟨Text.bytes (before ++ '/' :: '/' :: rest.takeWhile (· ≠ '\n')),
        made.emit ('/' :: '/' :: rest.takeWhile (· ≠ '\n'))⟩ := by
  have text : cut (before ++ '/' :: '/' :: rest) (Text.bytes before)
      (Text.bytes (before ++ '/' :: '/' :: rest.takeWhile (· ≠ '\n'))) =
        .ok ('/' :: '/' :: rest.takeWhile (· ≠ '\n')) :=
    cut_eq (by rw [List.append_assoc, List.cons_append, List.cons_append, List.takeWhile_append_dropWhile]) rfl rfl
  simp only [copyComment, commentEnd?_line, text, bind, Except.bind]

theorem copyComment_block (rest : List Char) :
    copyComment (before ++ '/' :: '*' :: rest) ⟨Text.bytes before, made⟩ =
      match commentLength? rest with
      | some count => .ok ⟨Text.bytes (before ++ '/' :: '*' :: rest.take count),
          made.emit ('/' :: '*' :: rest.take count)⟩
      | none => .error (.error (.unterminated .comment (Text.bytes before))) := by
  have text (count : Nat) : cut (before ++ '/' :: '*' :: rest) (Text.bytes before)
      (Text.bytes (before ++ '/' :: '*' :: rest.take count)) = .ok ('/' :: '*' :: rest.take count) :=
    cut_eq (by rw [List.append_assoc, List.cons_append, List.cons_append, List.take_append_drop]) rfl rfl
  rw [copyComment, commentEnd?_block]
  cases commentLength? rest with
  | none => rfl
  | some count => simp only [Option.map_some, text, bind, Except.bind]

theorem copyKey_utf8 {c : Char} (key : isKeyChar c = true) (rest : List Char) :
    copyKey (before ++ c :: rest) ⟨Text.bytes before, made⟩ =
      .ok ⟨Text.bytes (before ++ c :: rest.takeWhile isKeyChar),
        (made.emit (if c.isDigit then '"' :: (c :: rest.takeWhile isKeyChar) ++ ['"']
          else c :: rest.takeWhile isKeyChar)).takeKey
          (c :: rest.takeWhile isKeyChar)⟩ := by
  have run : (c :: rest).takeWhile isKeyChar = c :: rest.takeWhile isKeyChar := List.takeWhile_cons_of_pos key
  have piece : cut (before ++ c :: rest) (Text.bytes before) (Text.bytes (before ++ c :: rest.takeWhile isKeyChar)) =
      .ok (c :: rest.takeWhile isKeyChar) :=
    cut_eq (by rw [List.append_assoc, List.cons_append, List.takeWhile_append_dropWhile]) rfl rfl
  simp only [copyKey, runEnd_key, run, piece, bind, Except.bind]

end Copying

section Turning

variable {state : Inliner} (before : List Char)

theorem close_utf8 (bounded : state.Bounded) (kind : Construct) (c : Char) (rest : List Char) :
    close (before ++ c :: rest) ⟨Text.bytes before, state.inBytes⟩ kind =
      .ok ⟨Text.bytes (before ++ [c]), (state.close kind [c]).inBytes⟩ := by
  have copied : Inliner.inBytes { state.emit [c] with expectKey := false } =
      { state.inBytes.emit [c] with expectKey := false } := by
    rw [← Inliner.inBytes_emit bounded]
    rfl
  simp only [close, copyChar_utf8, bind, Except.bind, Inliner.close, ← copied, Inliner.topKind_inBytes]
  split
  · rw [finishFrame_inBytes]
  · rfl

/-- What the turn at a character does: it fails as inlining does there, or it reads some of the text and leads to the
state, in bytes, from which inlining goes on. -/
inductive Turned (state : Inliner) (text : List Char) (turned : Except Halt Scanner) : Prop
  | fails {e : Error} (turns : turned = .error (.error e)) (runs : state.run (Text.bytes before) text = .error e)
  | reads {read left : List Char} {next : Inliner} (split : text = read ++ left) (nonempty : read ≠ [])
      (turns : turned = .ok ⟨Text.bytes (before ++ read), next.inBytes⟩) (bounded : next.Bounded)
      (runs : state.run (Text.bytes before) text = next.run (Text.bytes (before ++ read)) left)

variable {before} {c : Char} {rest : List Char} {turned : Except Halt Scanner}

theorem Turned.of_error {e : Error} (found : recognise (Text.bytes before) c rest = .error e)
    (turns : turned = .error (.error e)) : Turned before state (c :: rest) turned := by
  refine .fails turns ?_
  rw [Inliner.run, lexemes, found]
  rfl

theorem Turned.of_lexeme (bounded : state.Bounded) {kind : LexemeKind} {taken : Nat}
    (found : recognise (Text.bytes before) c rest = .ok (kind, taken))
    (turns : turned = .ok ⟨Text.bytes (before ++ c :: rest.take taken),
      (state.step ⟨kind, Text.bytes before, c :: rest.take taken⟩).inBytes⟩) :
    Turned before state (c :: rest) turned := by
  refine .reads (by rw [List.cons_append, List.take_append_drop]) (by simp) turns (bounded.step _) ?_
  rw [state.run_recognised found, Text.bytes_append]

theorem Turned.of_char (bounded : state.Bounded) {kind : LexemeKind}
    (found : recognise (Text.bytes before) c rest = .ok (kind, 0))
    (turns : turned = .ok ⟨Text.bytes (before ++ [c]), (state.step ⟨kind, Text.bytes before, [c]⟩).inBytes⟩) :
    Turned before state (c :: rest) turned :=
  .of_lexeme bounded found (by simpa using turns)

theorem Turned.of_copied (bounded : state.Bounded) {kind : LexemeKind}
    (found : recognise (Text.bytes before) c rest = .ok (kind, 0))
    (copies : state.step ⟨kind, Text.bytes before, [c]⟩ = state.emit [c])
    (turns : turned = copyChar (before ++ c :: rest) ⟨Text.bytes before, state.inBytes⟩) :
    Turned before state (c :: rest) turned := by
  refine .of_char bounded found ?_
  rw [turns, copyChar_utf8, ← Inliner.inBytes_emit bounded, copies]

/-- The characters at which a turn does more than copying, whatever stands around them. -/
def turningMarks : List Char :=
  ['\'', '"', '\x60', '{', '[', '}', ']', '(', ',']

theorem turnAt_eq_copyChar {src : List Char} {scanner : Scanner} (unmarked : c ∉ turningMarks)
    (noComment : c = '/' → ¬ (Shows (utf8 src) (scanner.pos + 1) ['/'] ∨ Shows (utf8 src) (scanner.pos + 1) ['*']))
    (noBody : c = ')' → scanner.made.topKind ≠ some .functionBody) (inside : c = ';' → scanner.made.frames ≠ [])
    (noKey : scanner.made.expectKey = true → isKeyChar c = false) : scanner.turnAt src c = scanner.copyChar src := by
  simp only [turningMarks, List.mem_cons, List.not_mem_nil, or_false, not_or] at unmarked
  obtain ⟨single, double, template, brace, bracket, closeBrace, closeBracket, paren, comma⟩ := unmarked
  rw [turnAt, if_neg (not_or.mpr ⟨single, double⟩), if_neg template, if_neg (fun both => noComment both.1 both.2),
    if_neg brace,
    if_neg bracket, if_neg closeBrace, if_neg closeBracket, if_neg paren, if_neg (fun both => noBody both.1 both.2),
    if_neg comma, if_neg (fun both => inside both.1 (List.isEmpty_iff.mp both.2)),
    if_neg (fun both => by simp [noKey both.1] at both)]

theorem turnAt_eq_copyKey {src : List Char} {scanner : Scanner} (due : scanner.made.expectKey = true)
    (key : isKeyChar c = true) : scanner.turnAt src c = scanner.copyKey src := by
  have other (d : Char) (plain : isKeyChar d = false) : c ≠ d := isKeyChar_ne key plain
  simp [turnAt, due, key, other '\'' rfl, other '"' rfl, other '\x60' rfl, other '/' rfl, other '{' rfl,
    other '}' rfl, other '[' rfl, other ']' rfl, other '(' rfl, other ')' rfl, other ',' rfl, other ';' rfl]

theorem turned_string (bounded : state.Bounded) (isQuote : c = '\'' ∨ c = '"') :
    Turned before state (c :: rest) (turnAt (before ++ c :: rest) ⟨Text.bytes before, state.inBytes⟩ c) := by
  rw [turnAt, if_pos isQuote]
  cases closed : quotedLength? c rest with
  | none =>
    have found : recognise (Text.bytes before) c rest = .error (.unterminated .string (Text.bytes before)) := by
      rw [recognise, if_pos isQuote, closed]
    exact .of_error found (copyString_open before _ isQuote closed)
  | some count =>
    have found : recognise (Text.bytes before) c rest = .ok (.quoted, count) := by
      rw [recognise, if_pos isQuote, closed]
    have due : state.inBytes.expectKey = state.expectKey := rfl
    refine .of_lexeme bounded found ?_
    rw [copyString_closed before _ isQuote closed, due, ← Inliner.inBytes_emit bounded, Inliner.step]
    cases state.expectKey <;> rfl

theorem turned_comment (bounded : state.Bounded) (opens : rest.head? = some '/' ∨ rest.head? = some '*') :
    Turned before state ('/' :: rest) (turnAt (before ++ '/' :: rest) ⟨Text.bytes before, state.inBytes⟩ '/') := by
  have shows : Shows (utf8 (before ++ '/' :: rest)) (Text.bytes before + 1) ['/'] ∨
      Shows (utf8 (before ++ '/' :: rest)) (Text.bytes before + 1) ['*'] :=
    opens.imp (shows_next before rfl (by decide) rest).mpr (shows_next before rfl (by decide) rest).mpr
  rw [turnAt, if_neg (by decide), if_neg (by decide), if_pos ⟨rfl, shows⟩]
  rcases opens with line | block
  · obtain ⟨rest, rfl⟩ := List.head?_eq_some_iff.mp line
    have found : recognise (Text.bytes before) '/' ('/' :: rest) =
        .ok (.comment, ('/' :: rest.takeWhile (· ≠ '\n')).length) := rfl
    have taken : ('/' :: rest).take ('/' :: rest.takeWhile (· ≠ '\n')).length = '/' :: rest.takeWhile (· ≠ '\n') := by
      rw [List.length_cons, List.take_succ_cons, Text.take_run]
    refine .of_lexeme bounded found ?_
    rw [copyComment_line, taken, ← Inliner.inBytes_emit bounded]
    rfl
  · obtain ⟨rest, rfl⟩ := List.head?_eq_some_iff.mp block
    have found : recognise (Text.bytes before) '/' ('*' :: rest) =
        match commentLength? rest with
        | some length => .ok (.comment, length + 1)
        | none => .error (.unterminated .comment (Text.bytes before)) := rfl
    rw [copyComment_block]
    cases ends : commentLength? rest with
    | none =>
      rw [ends] at found
      exact .of_error found rfl
    | some count =>
      rw [ends] at found
      refine .of_lexeme bounded found ?_
      dsimp only
      rw [← Inliner.inBytes_emit bounded]
      rfl

theorem turned_open (bounded : state.Bounded) (isOpening : c = '{' ∨ c = '[') :
    Turned before state (c :: rest) (turnAt (before ++ c :: rest) ⟨Text.bytes before, state.inBytes⟩ c) := by
  have written (kind : Construct) (text : List Char) : ((state.push kind none (Text.bytes before)).emit text).inBytes =
      (state.inBytes.push kind none (Text.bytes before)).emit text :=
    Inliner.inBytes_emit (bounded.push kind (by simp) _) text
  rcases isOpening with rfl | rfl
  · have turns : turnAt (before ++ '{' :: rest) ⟨Text.bytes before, state.inBytes⟩ '{' = .ok ⟨Text.bytes before + 1,
        { (state.inBytes.push .object none (Text.bytes before)).emit ['{'] with expectKey := true }⟩ := rfl
    have brace : Text.bytes before + 1 = Text.bytes (before ++ ['{']) := bytes_concat before rfl
    refine .of_char bounded rfl ?_
    rw [turns, ← written, brace]
    rfl
  · have turns : turnAt (before ++ '[' :: rest) ⟨Text.bytes before, state.inBytes⟩ '[' =
        .ok ⟨Text.bytes before + 1, (state.inBytes.push .array none (Text.bytes before)).emit ['[']⟩ := rfl
    have bracket : Text.bytes before + 1 = Text.bytes (before ++ ['[']) := bytes_concat before rfl
    refine .of_char bounded rfl ?_
    rw [turns, ← written, bracket]
    rfl

theorem turned_close (bounded : state.Bounded) (isClosing : c = '}' ∨ c = ']') :
    Turned before state (c :: rest) (turnAt (before ++ c :: rest) ⟨Text.bytes before, state.inBytes⟩ c) := by
  rcases isClosing with rfl | rfl
  · exact .of_char bounded rfl (close_utf8 before bounded .object '}' rest)
  · exact .of_char bounded rfl (close_utf8 before bounded .array ']' rest)

theorem turned_comma (bounded : state.Bounded) :
    Turned before state (',' :: rest) (turnAt (before ++ ',' :: rest) ⟨Text.bytes before, state.inBytes⟩ ',') := by
  refine .of_char bounded rfl ?_
  have turns : turnAt (before ++ ',' :: rest) ⟨Text.bytes before, state.inBytes⟩ ',' =
      (copyChar (before ++ ',' :: rest) ⟨Text.bytes before, state.inBytes⟩).bind fun copied =>
        .ok { copied with made.pendingKey := none, made.expectKey := copied.made.topKind = some .object } := rfl
  rw [turns, copyChar_utf8, ← Inliner.inBytes_emit bounded]
  simp only [Except.bind, Inliner.topKind_inBytes]
  rfl

theorem turned_parenClose (bounded : state.Bounded) :
    Turned before state (')' :: rest) (turnAt (before ++ ')' :: rest) ⟨Text.bytes before, state.inBytes⟩ ')') := by
  have top := state.topKind_inBytes
  by_cases inFunction : state.topKind = some .functionBody
  · have step : state.step ⟨.parenClose, Text.bytes before, [')']⟩ = state.pop := if_pos inFunction
    have paren : Text.bytes before + 1 = Text.bytes (before ++ [')']) := bytes_concat before rfl
    refine .of_char bounded rfl ?_
    rw [turnAt, if_neg (by decide), if_neg (by decide),
      if_neg (fun both => absurd both.1 (by decide)), if_neg (by decide),
      if_neg (by decide), if_neg (by decide), if_neg (by decide), if_neg (by decide),
      if_pos ⟨rfl, top.trans inFunction⟩,
      finishFrame_inBytes, step, ← paren]
    rfl
  · exact .of_copied bounded rfl (if_neg inFunction)
      (turnAt_eq_copyChar (by decide) (by simp) (fun _ same => inFunction (top.symm.trans same)) (by simp) fun _ => rfl)

theorem turned_semicolon (bounded : state.Bounded) :
    Turned before state (';' :: rest) (turnAt (before ++ ';' :: rest) ⟨Text.bytes before, state.inBytes⟩ ';') := by
  cases outside : state.frames with
  | nil =>
    have empty : state.inBytes.frames.isEmpty = true := by rw [Inliner.inBytes, outside]; rfl
    have step : state.step ⟨.semicolon, Text.bytes before, [';']⟩ = state := if_pos (by rw [outside]; rfl)
    have semicolon : Text.bytes before + 1 = Text.bytes (before ++ [';']) := bytes_concat before rfl
    refine .of_char bounded rfl ?_
    rw [turnAt, if_neg (by decide), if_neg (by decide),
      if_neg (fun both => absurd both.1 (by decide)), if_neg (by decide),
      if_neg (by decide), if_neg (by decide), if_neg (by decide), if_neg (by decide),
      if_neg (fun both => absurd both.1 (by decide)), if_neg (by decide), if_pos ⟨rfl, empty⟩, step, ← semicolon]
  | cons frame outer =>
    have step : state.step ⟨.semicolon, Text.bytes before, [';']⟩ = state.emit [';'] := if_neg (by rw [outside]; simp)
    have inside : state.inBytes.frames ≠ [] := by simp [Inliner.inBytes, outside]
    exact .of_copied bounded rfl step
      (turnAt_eq_copyChar (by decide) (by simp) (by simp) (fun _ => inside) fun _ => rfl)

theorem turned_slash (bounded : state.Bounded) (noComment : ¬ (rest.head? = some '/' ∨ rest.head? = some '*')) :
    Turned before state ('/' :: rest) (turnAt (before ++ '/' :: rest) ⟨Text.bytes before, state.inBytes⟩ '/') := by
  have found : recognise (Text.bytes before) '/' rest = .ok (.other, 0) := by
    rw [not_or] at noComment
    simp [recognise, noComment]
    rfl
  have hidden : ¬ (Shows (utf8 (before ++ '/' :: rest)) (Text.bytes before + 1) ['/'] ∨
      Shows (utf8 (before ++ '/' :: rest)) (Text.bytes before + 1) ['*']) :=
    mt (Or.imp (shows_next before rfl (by decide) rest).mp (shows_next before rfl (by decide) rest).mp) noComment
  exact .of_copied bounded found rfl (turnAt_eq_copyChar (by decide) (fun _ => hidden) (by simp) (by simp) fun _ => rfl)

theorem turned_paren (bounded : state.Bounded) :
    Turned before state ('(' :: rest) (turnAt (before ++ '(' :: rest) ⟨Text.bytes before, state.inBytes⟩ '(') := by
  have turns : turnAt (before ++ '(' :: rest) ⟨Text.bytes before, state.inBytes⟩ '(' =
      match bodyAt? (utf8 (before ++ '(' :: rest)) (Text.bytes before) with
      | some body => enterArrow (before ++ '(' :: rest) ⟨Text.bytes before, state.inBytes⟩ body
      | none => copyChar (before ++ '(' :: rest) ⟨Text.bytes before, state.inBytes⟩ := rfl
  have found : recognise (Text.bytes before) '(' rest = recogniseParen (Text.bytes before) rest := rfl
  have source : before ++ '(' :: rest = before ++ '(' :: rest := rfl
  rcases bodyAt?_utf8 source with ⟨noBody, none⟩ | ⟨header, body, atBody, split, some⟩
  · rw [recogniseParen, noBody] at found
    exact .of_copied bounded found rfl (by rw [turns, none])
  · have whole : before ++ '(' :: rest = before ++ '(' :: header ++ body := by rw [split]; simp
    have length : rest.length - body.length = header.length := by rw [split, List.length_append]; omega
    have front : rest.take header.length = header := by rw [split, List.take_left]
    have place : Text.bytes before + 1 + Text.bytes header = Text.bytes (before ++ '(' :: header) := by
      rw [Text.bytes_append, Text.bytes_cons, Nat.add_assoc]
      rfl
    have shows (d : Char) (ascii : d.toNat < 128) :
        Shows (utf8 (before ++ '(' :: rest)) (Text.bytes (before ++ '(' :: header)) [d] ↔ [d] <+: body := by
      rw [whole, Text.shows_utf8 (by simpa using ascii)]
    have delimiter {d : Char} {tail : List Char} (narrow : d.utf8Size = 1) (atDelimiter : body = d :: tail) :
        Text.bytes (before ++ '(' :: header) + 1 = Text.bytes (before ++ '(' :: rest.take (header.length + 1)) := by
      have taken : rest.take (header.length + 1) = header ++ [d] := by
        rw [split, atDelimiter, List.take_length_add_append]
        rfl
      rw [taken, bytes_concat _ narrow, List.append_assoc, List.cons_append]
    simp only [recogniseParen, atBody, length, front, place] at found
    rw [turns, some]
    simp only [enterArrow, shows '(' (by decide), shows '[' (by decide), shows '{' (by decide)]
    split at found
    · next tail =>
      refine .of_lexeme bounded found ?_
      rw [if_pos ⟨tail, rfl⟩, delimiter rfl rfl, ← Inliner.inBytes_push_body]
      rfl
    · next tail =>
      refine .of_lexeme bounded found ?_
      rw [if_neg (by simp), if_pos ⟨tail, rfl⟩, delimiter rfl rfl, ← Inliner.inBytes_push_body, ← Inliner.inBytes_emit]
      · rfl
      · exact bounded.push .array Inliner.le_of_bodyStart _
    · next tail =>
      refine .of_error found ?_
      rw [if_neg (by simp), if_neg (by simp), if_pos ⟨tail, rfl⟩]
    · next noParen noBracket noBrace =>
      have absent {d : Char} (other : ∀ tail, body ≠ d :: tail) : ¬ [d] <+: body := by
        rintro ⟨tail, same⟩
        exact other tail same.symm
      refine .of_error found ?_
      rw [if_neg (absent noParen), if_neg (absent noBracket), if_neg (absent noBrace)]

theorem turned_key (bounded : state.Bounded) (key : isKeyChar c = true) :
    Turned before state (c :: rest) (turnAt (before ++ c :: rest) ⟨Text.bytes before, state.inBytes⟩ c) := by
  have found := recognise_word (Text.bytes before) key rest
  cases due : state.expectKey with
  | true =>
    refine .of_lexeme bounded found ?_
    have step : state.step ⟨.word, Text.bytes before, c :: rest.takeWhile isKeyChar⟩ =
        (state.emit (if c.isDigit then '"' :: (c :: rest.takeWhile isKeyChar) ++ ['"']
          else c :: rest.takeWhile isKeyChar)).takeKey
          (c :: rest.takeWhile isKeyChar) := by
      simp only [Inliner.step, due, if_true]
      rfl
    rw [turnAt_eq_copyKey due key, copyKey_utf8 before _ key, ← Inliner.inBytes_emit bounded, Text.take_run, step]
    rfl
  | false =>
    have narrow := Text.utf8Size_of_ascii (isKeyChar_ascii c key)
    have other {d : Char} (plain : isKeyChar d = false) : c ≠ d := isKeyChar_ne key plain
    have unmarked : c ∉ turningMarks := fun mark => by
      have plain : turningMarks.all (!isKeyChar ·) = true := by decide
      simpa [key] using List.all_eq_true.mp plain c mark
    have noKey : state.inBytes.expectKey = true → isKeyChar c = false := fun isDue => by
      rw [Inliner.inBytes, due] at isDue
      cases isDue
    have turns : turnAt (before ++ c :: rest) ⟨Text.bytes before, state.inBytes⟩ c =
        copyChar (before ++ c :: rest) ⟨Text.bytes before, state.inBytes⟩ :=
      turnAt_eq_copyChar unmarked (fun same => absurd same (other rfl)) (fun same => absurd same (other rfl))
        (fun same => absurd same (other rfl)) noKey
    rw [turns, copyChar_utf8, ← Inliner.inBytes_emit bounded]
    refine .reads rfl (by simp) rfl (bounded.emit [c]) ?_
    rw [Inliner.run_keyChar due _ key, bytes_concat before narrow]

/-- A character that is copied is read as one, whatever its first byte is read as among those that are copied. -/
theorem turned_other (bounded : state.Bounded) (unmarked : c ∉ marks) (noKey : isKeyChar c = false) {d : Char}
    (unmarkedByte : d ∉ marks) (noKeyByte : isKeyChar d = false) :
    Turned before state (c :: rest) (turnAt (before ++ c :: rest) ⟨Text.bytes before, state.inBytes⟩ d) := by
  have marked {e : Char} (mark : e ∈ marks) : d ≠ e := fun same => unmarkedByte (same ▸ mark)
  have among : turningMarks ⊆ marks := by simp [turningMarks, marks]
  refine .of_copied bounded (recognise_other _ unmarked noKey rest) rfl
    (turnAt_eq_copyChar (fun mark => unmarkedByte (among mark)) ?_ ?_ ?_ fun _ => noKeyByte)
  · exact fun same => absurd same (marked (by simp [marks]))
  · exact fun same => absurd same (marked (by simp [marks]))
  · exact fun same => absurd same (marked (by simp [marks]))

theorem unmarked_of_wide {c : Char} (wide : 128 ≤ c.toNat) : c ∉ marks := by
  intro mark
  have ascii : marks.all (·.toNat < 128) = true := by decide
  have short := List.all_eq_true.mp ascii c mark
  rw [decide_eq_true_eq] at short
  omega

/-- The scanner takes its turns as inlining takes its steps. -/
theorem turned_utf8 (bounded : state.Bounded) (before : List Char) (c : Char) (rest : List Char) :
    Turned before state (c :: rest) (turn (before ++ c :: rest) ⟨Text.bytes before, state.inBytes⟩ (firstByte c)) := by
  by_cases ascii : c.toNat < 128
  · rw [turn, Text.ofUInt8_firstByte ascii]
    by_cases isQuote : c = '\'' ∨ c = '"'
    · exact turned_string bounded isQuote
    by_cases template : c = '\x60'
    · subst template
      exact .of_error rfl rfl
    by_cases slash : c = '/'
    · subst slash
      by_cases comment : rest.head? = some '/' ∨ rest.head? = some '*'
      · exact turned_comment bounded comment
      · exact turned_slash bounded comment
    by_cases opening : c = '{' ∨ c = '['
    · exact turned_open bounded opening
    by_cases closing : c = '}' ∨ c = ']'
    · exact turned_close bounded closing
    by_cases paren : c = '('
    · subst paren
      exact turned_paren bounded
    by_cases parenClose : c = ')'
    · subst parenClose
      exact turned_parenClose bounded
    by_cases comma : c = ','
    · subst comma
      exact turned_comma bounded
    by_cases semicolon : c = ';'
    · subst semicolon
      exact turned_semicolon bounded
    by_cases key : isKeyChar c = true
    · exact turned_key bounded key
    have unmarked : c ∉ marks := by
      rw [not_or] at isQuote opening closing
      simp [marks, isQuote, template, slash, opening, closing, paren, parenClose, comma, semicolon]
    have noKey : isKeyChar c = false := by simpa using key
    exact turned_other bounded unmarked noKey unmarked noKey
  · have wide : 128 ≤ c.toNat := by omega
    have wideByte := Text.wide_firstByte wide
    have noKey : isKeyChar c = false := by
      rw [← Bool.not_eq_true]
      exact fun key => ascii (isKeyChar_ascii c key)
    exact turned_other bounded (unmarked_of_wide wide) noKey (unmarked_of_wide (by rwa [Text.toNat_ofUInt8]))
      (isKeyChar_ascii.of_wide wideByte)

end Turning

section Running

variable {src : List Char} {scanner : Scanner}

theorem run_end (done : (utf8 src)[scanner.pos]? = none) : run src scanner = scanner.made.finish.mapError .error := by
  rw [run]
  split
  · rfl
  · next b here => cases done.symm.trans here

theorem run_turn {b : UInt8} (here : (utf8 src)[scanner.pos]? = some b) :
    run src scanner = (scanner.turn src b).bind (run src) := by
  rw [run]
  split
  · next done => cases done.symm.trans here
  · next other =>
    cases here.symm.trans other
    split
    · next turns => exact (congrArg (Except.bind · (run src)) turns).symm
    · next turns => exact (congrArg (Except.bind · (run src)) turns).symm

/-- A scan from anywhere between two characters ends as inlining does. -/
theorem run_utf8 {state : Inliner} (bounded : state.Bounded) (before rest : List Char) :
    run (before ++ rest) ⟨Text.bytes before, state.inBytes⟩ =
      ((state.run (Text.bytes before) rest).bind Inliner.finish).mapError .error := by
  -- a turn reads a whole lexeme, so the induction is on the length of the text
  induction length : rest.length using Nat.strongRecOn generalizing state before rest with
  | ind n ih =>
    cases rest with
    | nil =>
      rw [List.append_nil, run_end (getElem?_utf8_end before), Inliner.finish_inBytes, Inliner.run_nil]
      rfl
    | cons c rest =>
      rw [run_turn (getElem?_utf8 before c rest)]
      cases turned_utf8 bounded before c rest with
      | fails turns runs =>
        rw [turns, runs]
        rfl
      | @reads read left next split nonempty turns nextBounded runs =>
        have shorter : left.length < n := by
          have positive := List.length_pos_iff.mpr nonempty
          rw [split, List.length_append] at length
          omega
        have later := ih _ shorter nextBounded (before ++ read) left rfl
        rw [List.append_assoc, ← split] at later
        rw [turns, runs, ← later]
        rfl

/-- Every turn of a scan begins between two characters. -/
theorem Visits.between (visits : Visits src scanner) :
    ∃ before rest state, src = before ++ rest ∧ scanner = ⟨Text.bytes before, Inliner.inBytes state⟩ ∧
      state.Bounded := by
  induction visits with
  | start => exact ⟨[], src, .start, rfl, rfl, Inliner.bounded_start⟩
  | @turn scanner next b visits here turns ih =>
    obtain ⟨before, rest, state, rfl, rfl, bounded⟩ := ih
    cases rest with
    | nil =>
      rw [List.append_nil, getElem?_utf8_end] at here
      cases here
    | cons c rest =>
      rw [getElem?_utf8] at here
      cases here
      cases turned_utf8 bounded before c rest with
      | fails wrong => cases turns.symm.trans wrong
      | @reads read left state split nonempty right nextBounded =>
        cases turns.symm.trans right
        exact ⟨before ++ read, left, state, by rw [split, List.append_assoc], rfl, nextBounded⟩

end Running

end Scanner

/-- Scanning by bytes gives what inlining gives, with every cut between characters. -/
theorem scan_eq (script : String) : scan script = (inline script).mapError .error := by
  have scanned : scan script = (cutExpression script.toList).bind fun expression => Scanner.run expression .start := rfl
  rw [scanned, cutExpression_eq, inline]
  cases exportedExpression script.toList with
  | error e => rfl
  | ok expression =>
    refine (Scanner.run_utf8 Inliner.bounded_start [] expression).trans ?_
    rw [Inliner.run, Text.bytes_nil]
    dsimp only
    cases lexemes 0 expression <;> rfl

/-- No script makes the scanner cut where it may not. -/
theorem scan_ne_misread (script : String) : scan script ≠ .error .misread := by
  intro misread
  rw [scan_eq] at misread
  cases inlined : inline script with
  | error e =>
    rw [inlined] at misread
    cases misread
  | ok inlining =>
    rw [inlined] at misread
    cases misread

theorem exists_cut_iff {text : List Char} {start stop : Nat} :
    (∃ piece, cut text start stop = .ok piece) ↔
      start ≤ stop ∧ stop ≤ Text.bytes text ∧ Text.IsBoundary text start ∧ Text.IsBoundary text stop := by
  rw [← Text.exists_slice?_iff, cut]
  cases Text.slice? text start stop <;> simp

/-- Reading by bytes never cuts through a character, and it always goes on. A cut succeeds just where both of its ends
are in bounds and between characters, the first cut that fails ends the scan as a misread, and no scan ends so. -/
theorem cuts_between_characters (script : String) :
    scan script ≠ .error .misread ∧ scan script = (inline script).mapError .error ∧
      (∀ text start stop, (∃ piece, cut text start stop = .ok piece) ↔
        start ≤ stop ∧ stop ≤ Text.bytes text ∧ Text.IsBoundary text start ∧ Text.IsBoundary text stop) ∧
      (∀ expression scanner, Scanner.Visits expression scanner → Text.IsBoundary expression scanner.pos ∧
        ∀ b next, (utf8 expression)[scanner.pos]? = some b → scanner.turn expression b = .ok next →
          scanner.pos < next.pos) ∧
      ∀ bytes pos next, skipTurn bytes pos = .again next → pos < next := by
  refine ⟨scan_ne_misread script, scan_eq script, fun _ _ _ => exists_cut_iff,
    fun expression scanner visits => ⟨?_, fun _ _ => Scanner.lt_of_turn⟩, fun _ _ _ turns => (lt_of_skipTurn turns).1⟩
  obtain ⟨before, rest, state, rfl, rfl, _⟩ := visits.between
  exact Text.isBoundary_append before rest

/-- A backslash hides only the first byte of the letter behind it. -/
theorem cuts_between_characters_behind_backslash :
    let expression := ' ' :: "\x7b'\\é':()=>[1]\x7d".toList
    let behindSpace : Scanner := ⟨1, Inliner.start.emit [' ']⟩
    scan "export default \x7b'\\é':()=>[1]\x7d" = .ok ⟨" \x7b'\\é':[1]\x7d", [⟨"\\é", "[1]"⟩]⟩ ∧
      Scanner.Visits expression behindSpace ∧ Text.IsBoundary expression 1 ∧ Scanner.start.pos < behindSpace.pos := by
  intro expression behindSpace
  have inlined : inline "export default \x7b'\\é':()=>[1]\x7d" = .ok ⟨" \x7b'\\é':[1]\x7d", [⟨"\\é", "[1]"⟩]⟩ := by
    with_unfolding_all rfl
  obtain ⟨_, same, _, between, _⟩ := cuts_between_characters "export default \x7b'\\é':()=>[1]\x7d"
  rw [inlined] at same
  have here : (utf8 expression)[Scanner.start.pos]? = some (firstByte ' ') := getElem?_utf8 [] ' ' _
  have turns : Scanner.start.turn expression (firstByte ' ') = .ok behindSpace := by
    rw [Scanner.turn, Text.ofUInt8_firstByte (by decide),
      Scanner.turnAt_eq_copyChar (by decide) (by simp) (by simp) (by simp) fun _ => rfl]
    exact Scanner.copyChar_utf8 [] .start ' ' _
  have visits : Scanner.Visits expression behindSpace := .turn .start here turns
  exact ⟨same, visits, (between _ _ visits).1, (between _ _ .start).2 _ _ here turns⟩

end ThemeSense.Script
