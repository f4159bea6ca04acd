import Mathlib.Data.List.TakeWhile
import ThemeSense.Proofs.Script.Lexing

namespace ThemeSense.Script

namespace Inliner

/-- The state after inlining a text that starts at byte `start`. -/
def run (state : Inliner) (start : Nat) (text : List Char) : Except Error Inliner :=
  (lexemes start text).map (·.foldl Inliner.step state)

theorem run_nil (state : Inliner) (start : Nat) : state.run start [] = .ok state := by
  simp [run, lexemes, Except.map]

/-- One lexeme is one step, behind which the next one starts. -/
theorem run_recognised {start taken : Nat} {c : Char} {rest : List Char} {kind : LexemeKind}
    (state : Inliner) (found : recognise start c rest = .ok (kind, taken)) :
    state.run start (c :: rest) = (state.step ⟨kind, start, c :: rest.take taken⟩).run
      (start + Text.bytes (c :: rest.take taken)) (rest.drop taken) := by
  unfold run
  rw [lexemes, found]
  cases tail : lexemes (start + Text.bytes (c :: rest.take taken)) (rest.drop taken) <;>
    simp [Except.map, tail]

theorem run_cons {start taken : Nat} {c : Char} {rest : List Char} {kind : LexemeKind}
    (state : Inliner) (found : recognise start c rest = .ok (kind, taken)) :
    ∃ next, state.run start (c :: rest) =
      (state.step ⟨kind, start, c :: rest.take taken⟩).run next (rest.drop taken) :=
  ⟨_, state.run_recognised found⟩

theorem run_lexeme {start : Nat} {c : Char} {text rest : List Char} {kind : LexemeKind}
    (state : Inliner) (found : recognise start c (text ++ rest) = .ok (kind, text.length)) :
    ∃ next, state.run start (c :: (text ++ rest)) = (state.step ⟨kind, start, c :: text⟩).run next rest := by
  simpa using state.run_cons found

theorem run_char {start : Nat} {c : Char} {rest : List Char} {kind : LexemeKind}
    (state : Inliner) (found : recognise start c rest = .ok (kind, 0)) :
    ∃ next, state.run start (c :: rest) = (state.step ⟨kind, start, [c]⟩).run next rest := by
  simpa using state.run_cons found

end Inliner

/-- The keys of the open frames from the outermost one on. -/
def framePath (frames : List Frame) : List String :=
  (frames.filterMap (·.key)).reverse

theorem framePath_cons (frame : Frame) (frames : List Frame) :
    framePath (frame :: frames) = framePath frames ++ frame.key.toList := by
  cases key : frame.key <;> simp [framePath, key]

/-- Inlining passes over `text`, writes `inlined` and records `thunks`, and has closed all that it
opened. What it holds about keys afterwards is left open. -/
structure Passed (before : Inliner) (start : Nat) (text rest inlined : List Char) (thunks : List Thunk)
    (after : Inliner) (next : Nat) : Prop where
  runs : before.run start (text ++ rest) = after.run next rest
  out : after.out.toList = before.out.toList ++ inlined
  frames : after.frames = before.frames
  thunks : after.thunks = thunks.reverse ++ before.thunks

namespace Passed

variable {a b c : Inliner} {start next last : Nat} {first second rest firstInlined secondInlined : List Char}
  {firstThunks secondThunks : List Thunk}

theorem trans (one : Passed a start first (second ++ rest) firstInlined firstThunks b next)
    (two : Passed b next second rest secondInlined secondThunks c last) :
    Passed a start (first ++ second) rest (firstInlined ++ secondInlined) (firstThunks ++ secondThunks) c last where
  runs := by rw [List.append_assoc, one.runs, two.runs]
  out := by rw [two.out, one.out, List.append_assoc]
  frames := two.frames.trans one.frames
  thunks := by rw [two.thunks, one.thunks, List.reverse_append, List.append_assoc]

theorem topKind (one : Passed a start first rest firstInlined firstThunks b next) : b.topKind = a.topKind := by
  rw [Inliner.topKind, Inliner.topKind, one.frames]

theorem emitted {state : Inliner} {text : List Char}
    (runs : state.run start (text ++ rest) = (state.emit text).run next rest) :
    Passed state start text rest text [] (state.emit text) next where
  runs := runs
  out := by simp [Inliner.emit]
  frames := rfl
  thunks := rfl

end Passed

section Emit

variable (state : Inliner) (text : List Char)

theorem Inliner.emit_out : (state.emit text).out.toList = state.out.toList ++ text := by
  simp [emit]

@[simp] theorem Inliner.emit_frames : (state.emit text).frames = state.frames := rfl

@[simp] theorem Inliner.emit_expectKey : (state.emit text).expectKey = state.expectKey := rfl

@[simp] theorem Inliner.emit_pendingKey : (state.emit text).pendingKey = state.pendingKey := rfl

end Emit

theorem Inliner.emit_nil (state : Inliner) : state.emit [] = state := by
  simp [emit]

theorem Inliner.emit_emit (state : Inliner) (first second : List Char) :
    (state.emit first).emit second = state.emit (first ++ second) := by
  have same : (state.out ++ first ++ second).toList = (state.out ++ (first ++ second)).toList := by simp
  simp only [emit, Array.toList_inj.mp same]

/-- A comment is copied, also when it holds what would be structure outside of it. -/
theorem Trivium.run (trivium : Trivium) (state : Inliner) (start : Nat) (rest : List Char) :
    ∃ next, state.run start (trivium.text ++ rest) = (state.emit trivium.text).run next rest := by
  cases trivium with
  | blank c isBlank =>
    have found : recognise start c rest = .ok (.other, 0) := by
      rcases isAsciiBlank_iff.mp isBlank with rfl | rfl | rfl | rfl | rfl <;> rfl
    exact state.run_char found
  | line content oneLine =>
    have inside : ('/' :: (content ++ '\n' :: rest)).takeWhile (· ≠ '\n') = '/' :: content := by
      rw [List.takeWhile_cons_of_pos (by decide), List.takeWhile_append_of_pos (by grind)]
      simp
    have found : recognise start '/' ('/' :: content ++ '\n' :: rest) = .ok (.comment, ('/' :: content).length) := by
      simp only [recognise, List.cons_append, inside]
      rfl
    obtain ⟨middle, comment⟩ := state.run_lexeme found
    have lineEnd : recognise middle '\n' rest = .ok (.other, 0) := rfl
    obtain ⟨next, ended⟩ := (state.emit ('/' :: '/' :: content)).run_char lineEnd
    refine ⟨next, ?_⟩
    calc state.run start ('/' :: '/' :: (content ++ ['\n']) ++ rest)
        = state.run start ('/' :: ('/' :: content ++ '\n' :: rest)) := by simp
      _ = (state.emit ('/' :: '/' :: content)).run middle ('\n' :: rest) := comment
      _ = ((state.emit ('/' :: '/' :: content)).emit ['\n']).run next rest := ended
      _ = (state.emit ('/' :: '/' :: (content ++ ['\n']))).run next rest := by
        rw [Inliner.emit_emit]; rfl
  | block content unended =>
    have found : recognise start '/' ('*' :: (content ++ ['*', '/']) ++ rest) =
        .ok (.comment, ('*' :: (content ++ ['*', '/'])).length) := by
      have length := commentLength?_block unended rest
      simp [recognise, length]
    exact state.run_lexeme found

theorem Trivia.passed (trivia : Trivia) (state : Inliner) (start : Nat) (rest : List Char) :
    ∃ next, Passed state start trivia.text rest trivia.text [] (state.emit trivia.text) next := by
  suffices runs : ∃ next, state.run start (trivia.text ++ rest) = (state.emit trivia.text).run next rest from
    runs.imp fun _ => Passed.emitted
  induction trivia generalizing state start with
  | nil => exact ⟨start, by rw [Trivia.text_nil, Inliner.emit_nil]; rfl⟩
  | cons trivium trivia ih =>
    obtain ⟨middle, first⟩ := trivium.run state start (Trivia.text trivia ++ rest)
    obtain ⟨next, others⟩ := ih (state.emit trivium.text) middle
    exact ⟨next, by rw [Trivia.text_cons, List.append_assoc, first, others, Inliner.emit_emit]⟩

theorem Quoted.recognise (string : Quoted) (start : Nat) (rest : List Char) :
    Script.recognise start string.quote ((string.content ++ [string.quote]) ++ rest) =
      .ok (.quoted, (string.content ++ [string.quote]).length) := by
  have length := quotedLength?_content string.isQuote string.fits rest
  simp [Script.recognise, string.isQuote, length]

theorem Quoted.passed (string : Quoted) (state : Inliner) (start : Nat) (rest : List Char)
    (value : state.expectKey = false) :
    ∃ next, Passed state start string.text rest string.text [] (state.emit string.text) next := by
  obtain ⟨next, runs⟩ := state.run_lexeme (string.recognise start rest)
  refine ⟨next, .emitted ?_⟩
  simpa [Inliner.step, value, Quoted.text] using runs

/-- A string in the place of a key is copied and becomes the key of what follows. -/
theorem Quoted.passed_key (string : Quoted) (state : Inliner) (start : Nat) (rest : List Char)
    (atKey : state.expectKey = true) :
    ∃ next, Passed state start string.text rest string.text []
      ((state.emit string.text).takeKey string.content) next := by
  obtain ⟨next, runs⟩ := state.run_lexeme (string.recognise start rest)
  refine ⟨next, ?_, by simp [Inliner.emit, Inliner.takeKey], rfl, rfl⟩
  simpa [Inliner.step, atKey, Quoted.text] using runs

theorem recognise_word (start : Nat) {c : Char} (key : isKeyChar c = true) (rest : List Char) :
    recognise start c rest = .ok (.word, (rest.takeWhile isKeyChar).length) := by
  have other (d : Char) (plain : isKeyChar d = false) : c ≠ d := isKeyChar_ne key plain
  simp [recognise, key, other '\'' rfl, other '"' rfl, other '\x60' rfl, other '/' rfl, other '{' rfl,
    other '}' rfl, other '[' rfl, other ']' rfl, other '(' rfl, other ')' rfl, other ',' rfl, other ';' rfl]

theorem Inliner.run_word (state : Inliner) (start : Nat) {c : Char} (key : isKeyChar c = true)
    (word : List Char) {rest : List Char} (stops : Stops rest) :
    ∃ next, state.run start (c :: (word ++ rest)) =
      (state.step ⟨.word, start, c :: word.takeWhile isKeyChar⟩).run next (word.dropWhile isKeyChar ++ rest) := by
  have split : word ++ rest = word.takeWhile isKeyChar ++ (word.dropWhile isKeyChar ++ rest) := by
    rw [← List.append_assoc, List.takeWhile_append_dropWhile]
  have found := recognise_word start key (word ++ rest)
  rw [stops.takeWhile_append] at found
  rw [split] at found ⊢
  exact state.run_lexeme found

/-- The characters that stand for themselves nowhere outside strings and comments. -/
def marks : List Char :=
  ['\'', '"', '\x60', '/', '{', '}', '[', ']', '(', ')', ',', ';']

theorem recognise_other (start : Nat) {c : Char} (unmarked : c ∉ marks) (noKey : isKeyChar c = false)
    (rest : List Char) : recognise start c rest = .ok (.other, 0) := by
  simp only [marks, List.mem_cons, List.not_mem_nil, or_false, not_or] at unmarked
  simp [recognise, noKey, unmarked]

/-- Where no key is due, a text without marks is copied. -/
theorem run_unmarked {word rest : List Char} (unmarked : ∀ c ∈ word, c ∉ marks) (stops : Stops rest)
    (state : Inliner) (start : Nat) (value : state.expectKey = false) :
    ∃ next, state.run start (word ++ rest) = (state.emit word).run next rest := by
  -- a word is one lexeme, so the induction is on the length
  induction length : word.length using Nat.strongRecOn generalizing word state start with
  | ind n ih =>
    cases word with
    | nil => exact ⟨start, by rw [Inliner.emit_nil]; rfl⟩
    | cons c word =>
      obtain ⟨here, later⟩ := List.forall_mem_cons.mp unmarked
      by_cases key : isKeyChar c = true
      · obtain ⟨middle, first⟩ := state.run_word start key word stops
        have left : ∀ d ∈ word.dropWhile isKeyChar, d ∉ marks :=
          fun d member => later d ((List.dropWhile_sublist isKeyChar).mem member)
        have shorter := (List.dropWhile_sublist isKeyChar (l := word)).length_le
        obtain ⟨next, others⟩ := ih _ (by simp at length; omega) left
          (state.emit (c :: word.takeWhile isKeyChar)) middle value rfl
        refine ⟨next, ?_⟩
        rw [List.cons_append, first]
        simp only [Inliner.step, value]
        rw [if_neg (by simp), others, Inliner.emit_emit, List.cons_append, List.takeWhile_append_dropWhile]
      · have found := recognise_other start here (by simpa using key) (word ++ rest)
        obtain ⟨middle, first⟩ := state.run_char found
        obtain ⟨next, others⟩ := ih _ (by simp at length; omega) later (state.emit [c]) middle value rfl
        exact ⟨next, by rw [List.cons_append, first]; exact others.trans (by rw [Inliner.emit_emit]; rfl)⟩

theorem unmarked_of {p : Char → Bool} (none : marks.all (!p ·) = true) {c : Char} (holds : p c = true) : c ∉ marks := by
  intro mark
  simpa [holds] using List.all_eq_true.mp none c mark

theorem unmarked_of_isPlainChar {c : Char} (isPlain : isPlainChar c = true) : c ∉ marks :=
  unmarked_of (by decide) isPlain

theorem Scalar.passed (scalar : Scalar) (state : Inliner) (start : Nat) {rest : List Char} (stops : Stops rest)
    (value : state.expectKey = false) :
    ∃ next, Passed state start scalar.text rest scalar.text [] (state.emit scalar.text) next := by
  cases scalar with
  | quoted string => exact string.passed state start rest value
  | plain word nonempty isPlain =>
    obtain ⟨next, runs⟩ := run_unmarked (fun c member => unmarked_of_isPlainChar (List.all_eq_true.mp isPlain c member))
      stops state start value
    exact ⟨next, .emitted runs⟩

/-- A key is written out, with quotes if it is plain and starts with a digit, and becomes the key of
what follows. -/
theorem Key.passed (key : Key) (state : Inliner) (start : Nat) {rest : List Char} (stops : Stops rest)
    (atKey : state.expectKey = true) :
    ∃ next, Passed state start key.piece.text rest key.piece.inlined []
      ((state.emit key.piece.inlined).takeKey key.name) next := by
  cases key with
  | quoted string => exact string.passed_key state start rest atKey
  | plain name nonempty isName =>
    cases name with
    | nil => exact absurd rfl nonempty
    | cons c name =>
      simp only [List.all_cons, Bool.and_eq_true, List.all_eq_true] at isName
      obtain ⟨next, runs⟩ := state.run_word start isName.1 name stops
      have whole : name.takeWhile isKeyChar = name := List.takeWhile_eq_self_iff.mpr isName.2
      have none : name.dropWhile isKeyChar = [] := List.dropWhile_eq_nil_iff.mpr isName.2
      rw [whole, none] at runs
      refine ⟨next, runs.trans ?_, by simp [Inliner.emit, Inliner.takeKey], rfl, rfl⟩
      simp only [Inliner.step, atKey, if_true]
      rfl

theorem passed_colon (state : Inliner) (start : Nat) (rest : List Char) :
    ∃ next, Passed state start [':'] rest [':'] [] (state.emit [':']) next := by
  have found : recognise start ':' rest = .ok (.other, 0) := rfl
  obtain ⟨next, runs⟩ := state.run_char found
  exact ⟨next, .emitted runs⟩

end ThemeSense.Script
