import Mathlib.Data.List.Infix
import ThemeSense.Proofs.Script.Source
import ThemeSense.Proofs.Script.Words

namespace ThemeSense.Script

open Json Json.Relaxed

/-- A name in the place of a key is copied if it has no digit before its first word character. With a
word character it becomes the key, without one the key is still due. -/
theorem passed_name_at_key {word rest : List Char} (unmarked : ∀ c ∈ word, c ∉ marks) (stops : Stops rest)
    (lettered : (word.find? isKeyChar).all (!Char.isDigit ·) = true) (state : Inliner) (start : Nat)
    (atKey : state.expectKey = true) :
    ∃ after next, Passed state start word rest word [] after next ∧
      after.expectKey = (word.find? isKeyChar).isNone := by
  induction word generalizing state start with
  | nil =>
    refine ⟨state, start, ⟨rfl, by simp, rfl, rfl⟩, ?_⟩
    simpa using atKey
  | cons c word ih =>
    obtain ⟨here, later⟩ := List.forall_mem_cons.mp unmarked
    by_cases key : isKeyChar c = true
    · obtain ⟨middle, first⟩ := state.run_word start key word stops
      rw [List.find?_cons_of_pos key] at lettered ⊢
      have noDigit : Inliner.startsWithDigit (c :: word.takeWhile isKeyChar) = false := by
        simpa [Inliner.startsWithDigit] using lettered
      let keyed := (state.emit (c :: word.takeWhile isKeyChar)).takeKey (c :: word.takeWhile isKeyChar)
      obtain ⟨next, others⟩ := run_unmarked
        (fun d member => later d ((List.dropWhile_sublist isKeyChar).mem member)) stops keyed middle rfl
      refine ⟨keyed.emit (word.dropWhile isKeyChar), next, ⟨?_, ?_, rfl, rfl⟩, rfl⟩
      · rw [List.cons_append, first]
        simp only [Inliner.step, atKey, if_true, noDigit]
        exact others
      · simp [keyed, Inliner.emit, Inliner.takeKey]
    · have found := recognise_other start here (by simpa using key) (word ++ rest)
      obtain ⟨middle, first⟩ := state.run_char found
      rw [List.find?_cons_of_neg key] at lettered ⊢
      obtain ⟨after, next, others, expects⟩ := ih later lettered (state.emit [c]) middle atKey
      have one : Passed state start [c] (word ++ rest) [c] [] (state.emit [c]) middle := .emitted first
      exact ⟨after, next, one.trans others, expects⟩

/-- Whether the first token behind colons and opening brackets is a number. -/
def startsWithNumber : List Token → Bool
  | .colon :: rest => startsWithNumber rest
  | .bracketOpen :: rest => startsWithNumber rest
  | .scalar _ :: _ => true
  | _ => false

def numberless (text : List Char) : Bool :=
  (tokens? Relaxed.recognise text).all (!startsWithNumber ·)

/-- Whether inlining sees in a lexical unit, with the text `left` after it, what the relaxed notation
sees.

Behind a line comment nothing but space may stand before the next line feed. A string may not be
continued over a carriage return and a line feed. A name may have no back quote, and only a letter of
ASCII, `_` or `$` as its first word character; without a word character it may stand before no number. -/
def isClearUnit (token : Option Token) (unit left : List Char) : Bool :=
  match token with
  | none => !(['/', '/'].isPrefixOf unit) || (left.takeWhile (· ≠ '\n')).all isSpace
  | some (.text _) => !decide (lineJoin <:+: unit)
  | some (.word _) | some (.name _) => !unit.contains '\x60' &&
    match unit.find? isKeyChar with
    | none => numberless left
    | some c => !c.isDigit
  | _ => true

/-- Whether all units of a document in the relaxed notation are clear. -/
def isClear : List Char → Bool
  | [] => true
  | c :: rest =>
    match Relaxed.recognise c rest with
    | none => false
    | some (token, taken) => isClearUnit token (c :: rest.take taken) (rest.drop taken) && isClear (rest.drop taken)
termination_by text => text.length
decreasing_by simp only [List.length_drop, List.length_cons]; omega

theorem isClear_cons {c : Char} {rest : List Char} {token : Option Token} {taken : Nat}
    (found : Relaxed.recognise c rest = some (token, taken)) :
    isClear (c :: rest) =
      (isClearUnit token (c :: rest.take taken) (rest.drop taken) && isClear (rest.drop taken)) := by
  rw [isClear.eq_def]
  simp only [found]

/-- Inlining copies `text` as it stands. -/
structure Copied (before : Inliner) (start : Nat) (text rest : List Char) (after : Inliner) (next : Nat) : Prop where
  runs : before.run start (text ++ rest) = after.run next rest
  out : after.out.toList = before.out.toList ++ text

theorem Passed.copied {before after : Inliner} {start next : Nat} {text rest : List Char}
    (passed : Passed before start text rest text [] after next) : Copied before start text rest after next :=
  ⟨passed.runs, passed.out⟩

/-- The bracket of an array or object under construction. -/
def bracketOf : Open → Construct
  | .array _ => .array
  | .object _ => .object
  | .member _ _ => .object

/-- Inlining has the brackets open that the reader has, none of them a function's, and takes a word for
a key only where no number is read. -/
structure Follows (state : Inliner) (b : Builder) (text : List Char) : Prop where
  brackets : state.frames.map (·.kind) = b.stack.map bracketOf
  data : ∀ frame ∈ state.frames, frame.bodyStart = none
  thunks : state.thunks = []
  keyed : state.expectKey = true → b.phase = .keyOrClose ∨ numberless text = true
  closed : ∀ value, b.phase = .done value → b.stack = []

section Numbers

variable {c : Char} {rest : List Char} {taken : Nat}

theorem numberless_space (found : Relaxed.recognise c rest = some (none, taken)) :
    numberless (c :: rest) = numberless (rest.drop taken) := by
  simp [numberless, tokens?_cons found]

theorem numberless_lead {token : Token} (isLead : token = .colon ∨ token = .bracketOpen)
    (found : Relaxed.recognise c rest = some (some token, taken)) :
    numberless (c :: rest) = numberless (rest.drop taken) := by
  rw [numberless, numberless, tokens?_cons found, Option.all_map]
  rcases isLead with rfl | rfl <;> rfl

theorem not_numberless {value : Json} (found : Relaxed.recognise c rest = some (some (.scalar value), taken))
    {b next : Builder} (read : b.read (rest.drop taken) = some next) : numberless (c :: rest) = false := by
  obtain ⟨tokens, cut, _⟩ := Option.bind_eq_some_iff.mp read
  simp [numberless, tokens?_cons found, cut, startsWithNumber]

end Numbers

section Characters

variable {c : Char}

theorem unmarked_of_isSpace (space : isSpace c = true) : c ∉ marks :=
  unmarked_of (by decide) space

theorem unmarked_of_isNumberChar (number : isNumberChar c = true) : c ∉ marks :=
  unmarked_of (by decide) number

/-- The only name character with a meaning of its own is the back quote. -/
theorem unmarked_of_isNameChar (name : isNameChar c = true) (noQuote : c ≠ '\x60') : c ∉ marks :=
  unmarked_of (p := fun c => isNameChar c && c != '\x60') (by decide) (by simp [name, noQuote])

end Characters

theorem stops_of_no_nameChar {rest : List Char} (ended : rest.head?.all (!isNameChar ·) = true) : Stops rest := by
  cases rest with
  | nil => rfl
  | cons c rest =>
    rw [stops_cons, ← Bool.not_eq_true]
    intro key
    simp [isNameChar_of_isKeyChar key] at ended

theorem unit_append (c : Char) (rest : List Char) (taken : Nat) :
    c :: rest.take taken ++ rest.drop taken = c :: rest := by
  simp

/-- Inlining has copied a unit, and is where the reader is again. -/
def Keeps (state : Inliner) (start : Nat) (unit left : List Char) (final : Builder) : Prop :=
  ∃ after next b, Copied state start unit left after next ∧ Follows after b left ∧ b.read left = some final

section Units

variable {state : Inliner} {b final : Builder} {c : Char} {rest : List Char} {taken : Nat}

/-- What changes neither the open brackets nor the functions on record. -/
theorem Follows.beside {text left : List Char} {after : Inliner} {next : Builder} (follows : Follows state b text)
    (frames : after.frames = state.frames) (thunks : after.thunks = state.thunks)
    (brackets : next.stack.map bracketOf = b.stack.map bracketOf)
    (closed : ∀ value, next.phase = .done value → next.stack = [])
    (keyed : after.expectKey = true → next.phase = .keyOrClose ∨ numberless left = true) : Follows after next left where
  brackets := by rw [frames, brackets, follows.brackets]
  data := by rw [frames]; exact follows.data
  thunks := thunks.trans follows.thunks
  keyed := keyed
  closed := closed

theorem Follows.blank (follows : Follows state b (c :: rest)) (found : Relaxed.recognise c rest = some (none, taken))
    (text : List Char) : Follows (state.emit text) b (rest.drop taken) :=
  follows.beside rfl rfl rfl follows.closed fun atKey =>
    (follows.keyed atKey).imp_right (numberless_space found).symm.trans

theorem put_brackets {stack : List Open} {value : Json} {next : Builder} (taken : Builder.put stack value = some next) :
    next.stack.map bracketOf = stack.map bracketOf ∧ ∀ found, next.phase = .done found → next.stack = [] := by
  unfold Builder.put at taken
  split at taken <;> cases taken <;> simp [bracketOf]

theorem text_brackets {token : Token} {next : Builder}
    (isText : ∃ text, token = .text text ∨ token = .word text ∨ token = .name text)
    (taken : Builder.step Relaxed.dialect b token = some next) :
    next.stack.map bracketOf = b.stack.map bracketOf ∧ ∀ found, next.phase = .done found → next.stack = [] := by
  rcases Builder.step_text isText taken with ⟨value, put⟩ | ⟨members, outer, name, same, rfl⟩
  · exact put_brackets put
  · simp [same, bracketOf]

/-- A word that is a key of an object stands where a key is due, or no number comes next. -/
theorem Follows.no_key {text : List Char} (follows : Follows state b text) (number : numberless text = false)
    (place : b.phase ≠ .keyOrClose) : state.expectKey = false := by
  rw [← Bool.not_eq_true]
  intro atKey
  exact (follows.keyed atKey).elim place (by simp [number])

theorem Follows.space (follows : Follows state b (c :: rest)) (found : Relaxed.recognise c rest = some (none, 0))
    (isSpace : isSpace c = true) (read : b.read (c :: rest) = some final) (start : Nat) :
    Keeps state start [c] rest final := by
  have other := recognise_other start (unmarked_of_isSpace isSpace) (isKeyChar_of_isSpace isSpace) rest
  obtain ⟨next, runs⟩ := state.run_char other
  have reads : b.read rest = some final := (b.read_space found).symm.trans read
  exact ⟨state.emit [c], next, b, (Passed.emitted runs).copied, follows.blank found [c], reads⟩

theorem Follows.blockComment {more : List Char} {length : Nat} (follows : Follows state b ('/' :: '*' :: more))
    (found : Relaxed.recognise '/' ('*' :: more) = some (none, length + 1)) (ended : blockComment? more = some length)
    (read : b.read ('/' :: '*' :: more) = some final) (start : Nat) :
    Keeps state start ('/' :: '*' :: more.take length) (more.drop length) final := by
  have comment : Script.recognise start '/' ('*' :: more) = .ok (.comment, length + 1) := by
    simp [Script.recognise, commentLength?_eq, ended]
  obtain ⟨next, runs⟩ := state.run_cons comment
  have whole := unit_append '/' ('*' :: more) (length + 1)
  have reads : b.read (more.drop length) = some final := (b.read_space found).symm.trans read
  exact ⟨_, next, b, (Passed.emitted ((congrArg _ whole).trans runs)).copied, follows.blank found _, reads⟩

theorem Follows.string {text : List Char} (follows : Follows state b (c :: rest))
    (found : Relaxed.recognise c rest = some (some (.text (String.ofList text)), taken))
    (isQuote : c = '"' ∨ c = '\'') (string : string? c none rest = some (text, taken))
    (noJoin : ¬ lineJoin <:+: c :: rest.take taken) (read : b.read (c :: rest) = some final) (start : Nat) :
    Keeps state start (c :: rest.take taken) (rest.drop taken) final := by
  rw [b.read_token found] at read
  obtain ⟨after, step, read⟩ := Option.bind_eq_some_iff.mp read
  have length := quotedLength?_of_string? isQuote string (.inl (noJoin_of_append [c] noJoin))
  have quoted : Script.recognise start c rest = .ok (.quoted, taken) := by
    rw [Script.recognise, if_pos isQuote.symm, length]
  obtain ⟨next, runs⟩ := state.run_cons quoted
  obtain ⟨brackets, closed⟩ := text_brackets ⟨_, .inl rfl⟩ step
  obtain ⟨out, frames, thunks, noKey⟩ := step_quoted state start (c :: rest.take taken)
  refine ⟨_, next, after, ⟨by rw [unit_append]; exact runs, out⟩, ?_, read⟩
  exact follows.beside frames thunks brackets closed fun atKey => absurd (noKey.symm.trans atKey) Bool.false_ne_true

theorem Follows.number {value : Json} (follows : Follows state b (c :: rest))
    (found : Relaxed.recognise c rest = some (some (.scalar value), taken))
    (first : isNumberChar c = true) (others : Numeric taken rest) (read : b.read (c :: rest) = some final)
    (start : Nat) :
    Keeps state start (c :: rest.take taken) (rest.drop taken) final := by
  rw [b.read_token found] at read
  obtain ⟨after, step, read⟩ := Option.bind_eq_some_iff.mp read
  obtain ⟨place, put⟩ := Builder.step_scalar step
  have noKey : state.expectKey = false := by
    refine follows.no_key (not_numberless found read) ?_
    rcases place with phase | phase <;> simp [phase]
  have unmarked : ∀ d ∈ c :: rest.take taken, d ∉ marks :=
    List.forall_mem_cons.mpr ⟨unmarked_of_isNumberChar first, fun d member =>
      unmarked_of_isNumberChar (List.all_eq_true.mp others.chars d member)⟩
  have stops := stops_of_read (Builder.put_complete put) read
  obtain ⟨next, runs⟩ := run_unmarked unmarked stops state start noKey
  obtain ⟨brackets, closed⟩ := put_brackets put
  refine ⟨_, next, after, (Passed.emitted runs).copied, ?_, read⟩
  exact follows.beside rfl rfl brackets closed fun atKey => absurd (noKey.symm.trans atKey) Bool.false_ne_true

theorem name_of_isClearUnit {token : Token} {text : String} {unit left : List Char}
    (isName : token = .word text ∨ token = .name text) (clear : isClearUnit (some token) unit left = true) :
    '\x60' ∉ unit ∧ (unit.find? isKeyChar).all (!Char.isDigit ·) = true ∧
      (unit.find? isKeyChar = none → numberless left = true) := by
  have clear : (!unit.contains '\x60' && match unit.find? isKeyChar with
      | none => numberless left
      | some c => !c.isDigit) = true := by
    rcases isName with rfl | rfl <;> exact clear
  cases found : unit.find? isKeyChar <;> simpa [found] using clear

theorem Follows.name {text : List Char} {token : Token} (follows : Follows state b (c :: rest))
    (found : Relaxed.recognise c rest = some (some token, taken))
    (named : name? none (c :: rest) = some (text, taken + 1))
    (isName : token = .word (String.ofList text) ∨ token = .name (String.ofList text))
    (clear : isClearUnit (some token) (c :: rest.take taken) (rest.drop taken) = true)
    (read : b.read (c :: rest) = some final) (start : Nat) :
    Keeps state start (c :: rest.take taken) (rest.drop taken) final := by
  rw [b.read_token found] at read
  obtain ⟨after, step, read⟩ := Option.bind_eq_some_iff.mp read
  obtain ⟨brackets, closed⟩ := text_brackets ⟨_, .inr isName⟩ step
  obtain ⟨noQuote, lettered, noNumber⟩ := name_of_isClearUnit isName clear
  obtain ⟨_, chars, ended⟩ := name?_chars named
  have unmarked : ∀ d ∈ c :: rest.take taken, d ∉ marks := fun d member =>
    unmarked_of_isNameChar (List.all_eq_true.mp chars d member) (ne_of_mem_of_not_mem member noQuote)
  have stops : Stops (rest.drop taken) := stops_of_no_nameChar ended
  cases atKey : state.expectKey with
  | false =>
    obtain ⟨next, runs⟩ := run_unmarked unmarked stops state start atKey
    refine ⟨_, next, after, (Passed.emitted runs).copied, ?_, read⟩
    exact follows.beside rfl rfl brackets closed fun still => absurd (atKey.symm.trans still) Bool.false_ne_true
  | true =>
    obtain ⟨named, next, passed, expects⟩ := passed_name_at_key unmarked stops lettered state start atKey
    refine ⟨named, next, after, passed.copied, ?_, read⟩
    refine follows.beside passed.frames passed.thunks brackets closed fun still => .inr (noNumber ?_)
    simpa [expects] using still

theorem Follows.opens {inner : Inliner} {start next : Nat} {kind : Construct} {bracket : Open} {phase : Phase}
    {text : List Char} (follows : Follows state b text) (opened : Opens state start [c] rest [c] kind none inner next)
    (isKind : bracketOf bracket = kind) (keyed : inner.expectKey = true → phase = .keyOrClose ∨ numberless rest = true)
    (read : Builder.read ⟨bracket :: b.stack, phase⟩ rest = some final) (unfinished : ∀ value, phase ≠ .done value) :
    Keeps state start [c] rest final := by
  obtain ⟨position, frames⟩ := opened.frames
  refine ⟨inner, next, ⟨bracket :: b.stack, phase⟩, ⟨opened.runs, opened.out⟩, ?_, read⟩
  exact {
    brackets := by simp [frames, isKind, follows.brackets]
    data := by rw [frames]; exact List.forall_mem_cons.mpr ⟨rfl, follows.data⟩
    thunks := opened.thunks.trans follows.thunks
    keyed := keyed
    closed := fun value done => absurd done (unfinished value) }

/-- The innermost bracket of the reader is that of inlining. -/
theorem Follows.top {text : List Char} {bracket : Open} {outer : List Open} (follows : Follows state b text)
    (top : b.stack = bracket :: outer) :
    ∃ frame frames, state.frames = frame :: frames ∧ frame.kind = bracketOf bracket ∧ frame.bodyStart = none ∧
      frames.map (·.kind) = outer.map bracketOf := by
  have brackets := follows.brackets
  rw [top, List.map_cons, List.map_eq_cons_iff] at brackets
  obtain ⟨frame, frames, same, kind, others⟩ := brackets
  exact ⟨frame, frames, same, kind, follows.data frame (by simp [same]), others⟩

theorem Follows.closes {closing : Inliner} {start next : Nat} {frame : Frame} {frames : List Frame} {outer : List Open}
    {value : Json} {after : Builder} {text : List Char} (follows : Follows state b text)
    (top : state.frames = frame :: frames) (data : frame.bodyStart = none)
    (others : frames.map (·.kind) = outer.map bracketOf) (closes : Closes state start [c] rest [c] closing next)
    (put : Builder.put outer value = some after) (read : after.read rest = some final) :
    Keeps state start [c] rest final := by
  have closingTop : closing.frames = frame :: frames := closes.frames.trans top
  obtain ⟨brackets, closed⟩ := put_brackets put
  refine ⟨closing.pop, next, after, ⟨closes.runs, ?_⟩, ?_, read⟩
  · rw [Inliner.pop_out, closes.out]
  · exact {
      brackets := by rw [Inliner.pop_frames closingTop, others, brackets]
      data := by
        rw [Inliner.pop_frames closingTop]
        exact fun frame member => follows.data frame (by rw [top]; exact List.mem_cons_of_mem _ member)
      thunks := by rw [Inliner.pop_thunks_of_data closingTop data, closes.thunks, follows.thunks]
      keyed := fun atKey => by simp [Inliner.pop_expectKey closingTop] at atKey
      closed := closed }

theorem Follows.comma {after : Builder} {text : List Char} (follows : Follows state b text)
    (step : Builder.step Relaxed.dialect b .comma = some after) (read : after.read rest = some final) (start : Nat) :
    Keeps state start [','] rest final := by
  obtain ⟨next, passed⟩ := passed_comma state start rest
  refine ⟨_, next, after, passed.copied, ?_, read⟩
  rcases Builder.step_comma step with ⟨items, outer, top, rfl⟩ | ⟨members, outer, top, rfl⟩
  · obtain ⟨frame, frames, same, kind, _⟩ := follows.top top
    have inArray : state.topKind = some .array := by simp [Inliner.topKind, same, kind, bracketOf]
    exact follows.beside rfl rfl rfl (by simp) (by simp [inArray])
  · exact follows.beside rfl rfl rfl (by simp) fun _ => .inl rfl

theorem Follows.punctuation {token : Token} (follows : Follows state b (c :: rest))
    (found : Relaxed.recognise c rest = some (some token, 0)) (mark : punctuation? c = some token)
    (read : b.read (c :: rest) = some final) (start : Nat) : Keeps state start [c] rest final := by
  rw [b.read_token found] at read
  obtain ⟨after, step, reads⟩ := Option.bind_eq_some_iff.mp read
  -- before a colon or an opening bracket a key is expected only where no number comes next
  have lead (isLead : token = .colon ∨ token = .bracketOpen) (place : b.phase ≠ .keyOrClose)
      (atKey : state.expectKey = true) : numberless rest = true :=
    (numberless_lead isLead found).symm.trans ((follows.keyed atKey).resolve_left place)
  unfold punctuation? at mark
  split at mark <;> cases mark
  · obtain rfl := Builder.step_braceOpen step
    obtain ⟨inner, next, opened, _⟩ := opens_brace state start rest
    exact follows.opens opened rfl (fun _ => .inl rfl) reads nofun
  · obtain ⟨members, outer, top, put⟩ := Builder.step_braceClose step
    obtain ⟨frame, frames, same, kind, data, others⟩ := follows.top top
    obtain ⟨closing, next, closes⟩ := closes_brace same kind start rest
    exact follows.closes same data others closes put reads
  · obtain ⟨place, rfl⟩ := Builder.step_bracketOpen step
    obtain ⟨inner, next, opened, sameKey⟩ := opens_bracket state start rest
    refine follows.opens opened rfl (fun atKey => .inr (lead (.inr rfl) ?_ (sameKey.symm.trans atKey))) reads nofun
    rcases place with phase | phase <;> simp [phase]
  · obtain ⟨items, outer, top, put⟩ := Builder.step_bracketClose step
    obtain ⟨frame, frames, same, kind, data, others⟩ := follows.top top
    obtain ⟨closing, next, closes⟩ := closes_bracket same kind start rest
    exact follows.closes same data others closes put reads
  · exact follows.comma step reads start
  · obtain ⟨place, rfl⟩ := Builder.step_colon step
    obtain ⟨next, passed⟩ := passed_colon state start rest
    refine ⟨_, next, _, passed.copied, ?_, reads⟩
    exact follows.beside rfl rfl rfl nofun fun atKey => .inr (lead (.inl rfl) (by simp [place]) atKey)

theorem skip_space {blanks : List Char} (isSpaces : blanks.all isSpace = true) (rest : List Char) :
    numberless (blanks ++ rest) = numberless rest ∧ (isClear (blanks ++ rest) = true → isClear rest = true) := by
  induction blanks with
  | nil => exact ⟨rfl, id⟩
  | cons c blanks ih =>
    rw [List.all_cons, Bool.and_eq_true] at isSpaces
    obtain ⟨sameNumber, stillClear⟩ := ih isSpaces.2
    have space := recognise_of_isSpace isSpaces.1 (blanks ++ rest)
    exact ⟨(numberless_space space).trans sameNumber,
      fun clear => stillClear (Bool.and_eq_true_iff.mp ((isClear_cons space).symm.trans clear)).2⟩

/-- A line comment may end before the line feed that ends it for inlining. -/
theorem line_left (more : List Char) {left : List Char}
    (isLeft : left = ('/' :: more).drop (1 + (more.takeWhile (!isLineEnd ·)).length)) :
    left = left.takeWhile (· ≠ '\n') ++ more.dropWhile (· ≠ '\n') := by
  subst isLeft
  rw [Nat.add_comm, List.drop_succ_cons]
  induction more with
  | nil => rfl
  | cons c more ih =>
    cases ended : isLineEnd c with
    | true => simp [ended]
    | false =>
      have inLine : c ≠ '\n' := by
        rintro rfl
        cases ended
      simpa [ended, inLine] using ih

/-- Inlining takes a line comment to the next line feed, and what the reader finds behind the end of
the comment is space only. -/
theorem Follows.lineComment {more left : List Char} (follows : Follows state b ('/' :: '/' :: more))
    (isLeft : left = ('/' :: more).drop (1 + (more.takeWhile (!isLineEnd ·)).length))
    (isSpaces : (left.takeWhile (· ≠ '\n')).all isSpace = true)
    (read : b.read ('/' :: '/' :: more) = some final) (start : Nat) :
    Keeps state start ('/' :: '/' :: more.takeWhile (· ≠ '\n')) (more.dropWhile (· ≠ '\n')) final := by
  have found : Relaxed.recognise '/' ('/' :: more) = some (none, 1 + (more.takeWhile (!isLineEnd ·)).length) := rfl
  have comment : Script.recognise start '/' ('/' :: more.takeWhile (· ≠ '\n') ++ more.dropWhile (· ≠ '\n')) =
      .ok (.comment, ('/' :: more.takeWhile (· ≠ '\n')).length) := by
    rw [List.cons_append, List.takeWhile_append_dropWhile]
    rfl
  obtain ⟨next, runs⟩ := state.run_lexeme comment
  have sameRead := b.read_spaces isSpaces (more.dropWhile (· ≠ '\n'))
  have sameNumber := (skip_space isSpaces (more.dropWhile (· ≠ '\n'))).1
  have behind := follows.blank found ('/' :: '/' :: more.takeWhile (· ≠ '\n'))
  rw [b.read_space found, ← isLeft, line_left more isLeft, sameRead] at read
  rw [← isLeft, line_left more isLeft] at behind
  refine ⟨_, next, b, ⟨runs, by simp [Inliner.step, Inliner.emit]⟩, ?_, read⟩
  exact behind.beside rfl rfl rfl behind.closed fun atKey => (behind.keyed atKey).imp_right sameNumber.symm.trans

end Units

/-- The next unit of a clear document is copied. Behind a line comment the space of its line goes with it. -/
theorem Follows.advance {state : Inliner} {b final : Builder} {c : Char} {rest : List Char}
    (follows : Follows state b (c :: rest)) (clear : isClear (c :: rest) = true)
    (read : b.read (c :: rest) = some final) (start : Nat) :
    ∃ unit left, c :: rest = unit ++ left ∧ left.length ≤ rest.length ∧ isClear left = true ∧
      Keeps state start unit left final := by
  obtain ⟨tokens, cut, _⟩ := Option.bind_eq_some_iff.mp read
  obtain ⟨token, taken, _, found, _⟩ := recognise_of_tokens? cut
  rw [isClear_cons found, Bool.and_eq_true] at clear
  obtain ⟨unit, others⟩ := clear
  have whole := unit_append c rest taken
  have shorter : (rest.drop taken).length ≤ rest.length := by simp
  cases lexed_of_recognise found with
  | space isSpace => exact ⟨[c], rest, rfl, le_rfl, others, follows.space found isSpace read start⟩
  | @lineComment more opening second =>
    subst opening second
    obtain ⟨left, isLeft⟩ : ∃ left, left = ('/' :: more).drop (1 + (more.takeWhile (!isLineEnd ·)).length) := ⟨_, rfl⟩
    rw [← isLeft] at unit others
    have isSpaces : (left.takeWhile (· ≠ '\n')).all isSpace = true := by
      rw [isClearUnit, Nat.add_comm] at unit
      exact unit
    refine ⟨_, _, ?_, ?_, ?_, follows.lineComment isLeft isSpaces read start⟩
    · rw [List.cons_append, List.cons_append, List.takeWhile_append_dropWhile]
    · exact Nat.le_succ_of_le (List.dropWhile_sublist _).length_le
    · rw [line_left more isLeft] at others
      exact (skip_space isSpaces _).2 others
  | blockComment opening second ended =>
    subst opening second
    exact ⟨_, _, whole.symm, shorter, others, follows.blockComment found ended read start⟩
  | string isQuote string =>
    have noJoin : ¬ lineJoin <:+: c :: rest.take taken := by simpa [isClearUnit] using unit
    exact ⟨_, _, whole.symm, shorter, others, follows.string found isQuote string noJoin read start⟩
  | number first numeric => exact ⟨_, _, whole.symm, shorter, others, follows.number found first numeric read start⟩
  | name named isName => exact ⟨_, _, whole.symm, shorter, others, follows.name found named isName unit read start⟩
  | punctuation mark => exact ⟨[c], rest, rfl, le_rfl, others, follows.punctuation found mark read start⟩

/-- What is copied unit by unit is copied as a whole. -/
theorem Follows.run {state : Inliner} {b final : Builder} {text : List Char} (follows : Follows state b text)
    (clear : isClear text = true) (read : b.read text = some final) (start : Nat) :
    ∃ after, state.run start text = .ok after ∧ after.out.toList = state.out.toList ++ text ∧
      Follows after final [] := by
  induction length : text.length using Nat.strongRecOn generalizing state b text start with
  | ind n ih =>
    cases text with
    | nil =>
      rw [Builder.read_nil, Option.some.injEq] at read
      subst read
      exact ⟨state, state.run_nil start, by simp, follows⟩
    | cons c rest =>
      obtain ⟨unit, left, whole, shorter, clear, middle, next, reader, copied, behind, read⟩ :=
        follows.advance clear read start
      obtain ⟨after, runs, out, ended⟩ := ih left.length (by simp at length; omega) behind clear read next rfl
      refine ⟨after, ?_, ?_, ended⟩
      · rw [whole, copied.runs, runs]
      · rw [out, copied.out, whole, List.append_assoc]

theorem Follows.start (text : List Char) : Follows .start .start text where
  brackets := rfl
  data := by simp [Inliner.start]
  thunks := rfl
  keyed := nofun
  closed := nofun

/-- Inlining copies a clear document as it stands: it records no function, and the document is read as
before. -/
theorem inline_document {document : String} {json : Json} (read : parseRelaxed? document = some json)
    (clear : isClear document.toList = true) :
    inline ("module.exports = " ++ document) = .ok ⟨" " ++ document, []⟩ ∧
      parseRelaxed? (" " ++ document) = some json := by
  have exported : exportedExpression ("module.exports = " ++ document).toList = .ok (" " ++ document).toList := by
    rw [String.toList_append, String.toList_append]
    rfl
  have space : Relaxed.recognise ' ' document.toList = some (none, 0) := rfl
  have lead : (" " ++ document).toList = ' ' :: document.toList := String.toList_append
  have sameRead : Builder.start.read (" " ++ document).toList = Builder.start.read document.toList := by
    rw [lead, Builder.read_space _ space, List.drop_zero]
  have stillClear : isClear (" " ++ document).toList = true := by
    rw [lead, isClear_cons space]
    exact clear
  have spaced : parseRelaxed? (" " ++ document) = some json := by
    rw [Builder.parseRelaxed?_eq, sameRead, ← Builder.parseRelaxed?_eq, read]
  refine ⟨?_, spaced⟩
  rw [Builder.parseRelaxed?_eq] at spaced
  obtain ⟨final, read, result⟩ := Option.bind_eq_some_iff.mp spaced
  obtain ⟨after, runs, out, ended⟩ := (Follows.start _).run stillClear read 0
  have finished : final.stack = [] := by
    unfold Builder.result? at result
    split at result
    · rename_i done
      exact ended.closed _ done
    · cases result
  have frames : after.frames = [] := by simpa [finished] using ended.brackets
  rw [inline_of_run exported runs]
  simp [Inliner.finish, frames, ended.thunks, out, Inliner.start]

theorem inline_document_beside_comments :
    parseRelaxed? "\x7bé:'//', // \x7d\r\n$1:7\x7d" =
        some (.obj [("é", .str "//"), ("$1", .num (.int 7))]) ∧
      isClear "\x7bé:'//', // \x7d\r\n$1:7\x7d".toList = true ∧
      inline ("module.exports = " ++ "\x7bé:'//', // \x7d\r\n$1:7\x7d") =
        .ok ⟨" " ++ "\x7bé:'//', // \x7d\r\n$1:7\x7d", []⟩ := by
  have read : parseRelaxed? "\x7bé:'//', // \x7d\r\n$1:7\x7d" =
      some (.obj [("é", .str "//"), ("$1", .num (.int 7))]) := by with_unfolding_all rfl
  have clear : isClear "\x7bé:'//', // \x7d\r\n$1:7\x7d".toList = true := by decide +kernel
  exact ⟨read, clear, (inline_document read clear).1⟩

/-- Documents that are not clear, one for each thing that a unit may not have. A number becomes a
string, a key falls apart, and inlining finds an object or a string without an end, or a template
literal. -/
theorem unclear_documents_changed :
    (parseRelaxed? "\x7bé:1\x7d" = some (.obj [("é", .num (.int 1))]) ∧
      inline ("module.exports = " ++ "\x7bé:1\x7d") = .ok ⟨" \x7bé:\"1\"\x7d", []⟩ ∧
      parseRelaxed? " \x7bé:\"1\"\x7d" = some (.obj [("é", .str "1")])) ∧
    (parseRelaxed? "\x7bé1:1\x7d" = some (.obj [("é1", .num (.int 1))]) ∧
      inline ("module.exports = " ++ "\x7bé1:1\x7d") = .ok ⟨" \x7bé\"1\":1\x7d", []⟩ ∧
      parseRelaxed? " \x7bé\"1\":1\x7d" = none) ∧
    (parseRelaxed? "\x7b//\r\x7d" = some (.obj []) ∧
      inline ("module.exports = " ++ "\x7b//\r\x7d") = .error (.unterminated .object 1)) ∧
    (parseRelaxed? "'\\\r\n'" = some (.str "") ∧
      inline ("module.exports = " ++ "'\\\r\n'") = .error (.unterminated .string 1)) ∧
    (parseRelaxed? "\x7ba\x60:1\x7d" = some (.obj [("a\x60", .num (.int 1))]) ∧
      inline ("module.exports = " ++ "\x7ba\x60:1\x7d") = .error (.templateLiteral 3)) := by
  with_unfolding_all
    exact ⟨⟨rfl, rfl, rfl⟩, ⟨rfl, rfl, rfl⟩, ⟨rfl, rfl⟩, ⟨rfl, rfl⟩, ⟨rfl, rfl⟩⟩

end ThemeSense.Script
