import ThemeSense.Proofs.Script.Passage

namespace ThemeSense.Script

namespace Inliner

variable {state : Inliner} {frame : Frame} {outer : List Frame}

theorem pop_out (state : Inliner) : state.pop.out = state.out := by
  unfold pop
  split <;> rfl

theorem pop_frames (top : state.frames = frame :: outer) : state.pop.frames = outer := by
  simp [pop, top]

theorem pop_expectKey (top : state.frames = frame :: outer) : state.pop.expectKey = false := by
  simp [pop, top]

theorem pop_thunks_of_data (top : state.frames = frame :: outer) (data : frame.bodyStart = none) :
    state.pop.thunks = state.thunks := by
  simp [pop, top, data]

/-- A function is recorded where it is the value of a property, with all that was written since. -/
theorem pop_thunks_of_function {written body : List Char} (top : state.frames = frame :: outer)
    (function : frame.bodyStart = frame.key.map fun _ => written.length)
    (out : state.out.toList = written ++ body) :
    state.pop.thunks = (record (framePath outer) frame.key body).reverse ++ state.thunks := by
  cases key : frame.key with
  | none => simp [pop, top, key, record]
  | some name => simp [pop, top, key, function, out, record, path, framePath]

theorem close_eq {kind : Construct} (text : List Char) (top : state.frames = frame :: outer)
    (fits : frame.kind = kind) : state.close kind text = { state.emit text with expectKey := false }.pop := by
  simp [close, topKind, emit, top, fits]

end Inliner

theorem step_quoted (state : Inliner) (start : Nat) (text : List Char) :
    (state.step ⟨.quoted, start, text⟩).out.toList = state.out.toList ++ text ∧
      (state.step ⟨.quoted, start, text⟩).frames = state.frames ∧
      (state.step ⟨.quoted, start, text⟩).thunks = state.thunks ∧
      (state.step ⟨.quoted, start, text⟩).expectKey = false := by
  cases atKey : state.expectKey <;> simp [Inliner.step, Inliner.emit, Inliner.takeKey, atKey]

/-- A bracket opens a frame: inlining passes over `opener` and writes `lead`. -/
structure Opens (before : Inliner) (start : Nat) (opener rest lead : List Char) (kind : Construct)
    (bodyStart : Option Nat) (inner : Inliner) (next : Nat) : Prop where
  runs : before.run start (opener ++ rest) = inner.run next rest
  frames : ∃ position, inner.frames = ⟨kind, before.pendingKey, bodyStart, position⟩ :: before.frames
  out : inner.out.toList = before.out.toList ++ lead
  thunks : inner.thunks = before.thunks
  pendingKey : inner.pendingKey = none

theorem opens_bracket (state : Inliner) (start : Nat) (rest : List Char) :
    ∃ inner next, Opens state start ['['] rest ['['] .array none inner next ∧ inner.expectKey = state.expectKey := by
  have found : recognise start '[' rest = .ok (.bracketOpen, 0) := rfl
  obtain ⟨next, runs⟩ := state.run_char found
  exact ⟨_, next, ⟨runs, ⟨start, rfl⟩, by simp [Inliner.step, Inliner.push, Inliner.emit], rfl, rfl⟩, rfl⟩

theorem opens_brace (state : Inliner) (start : Nat) (rest : List Char) :
    ∃ inner next, Opens state start ['{'] rest ['{'] .object none inner next ∧ inner.expectKey = true := by
  have found : recognise start '{' rest = .ok (.braceOpen, 0) := rfl
  obtain ⟨next, runs⟩ := state.run_char found
  exact ⟨_, next, ⟨runs, ⟨start, rfl⟩, by simp [Inliner.step, Inliner.push, Inliner.emit], rfl, rfl⟩, rfl⟩

theorem ArrowHead.opens_paren (head : ArrowHead) (state : Inliner) (start : Nat) (rest : List Char) :
    ∃ inner next, Opens state start (head.text ++ ['(']) rest [] .functionBody state.bodyStart inner next ∧
      inner.expectKey = state.expectKey := by
  have found : recognise start '(' (head.rest ++ ['('] ++ rest) =
      .ok (.arrowParen (start + 1 + Text.bytes head.rest), (head.rest ++ ['(']).length) := by
    simpa [recognise] using head.recogniseParen start rest
  obtain ⟨next, runs⟩ := state.run_lexeme found
  exact ⟨_, next, ⟨runs, ⟨_, rfl⟩, by simp [Inliner.step, Inliner.push], rfl, rfl⟩, rfl⟩

theorem ArrowHead.opens_bracket (head : ArrowHead) (state : Inliner) (start : Nat) (rest : List Char) :
    ∃ inner next, Opens state start (head.text ++ ['[']) rest ['['] .array state.bodyStart inner next ∧
      inner.expectKey = state.expectKey := by
  have found : recognise start '(' (head.rest ++ ['['] ++ rest) =
      .ok (.arrowBracket (start + 1 + Text.bytes head.rest), (head.rest ++ ['[']).length) := by
    simpa [recognise] using head.recogniseBracket start rest
  obtain ⟨next, runs⟩ := state.run_lexeme found
  exact ⟨_, next, ⟨runs, ⟨_, rfl⟩, by simp [Inliner.step, Inliner.push, Inliner.emit], rfl, rfl⟩, rfl⟩

/-- A bracket closes the frame of kind `kind`: inlining passes over `closer`, writes `tail` and
closes the frame of `closing`. -/
structure Closes (after : Inliner) (start : Nat) (closer rest tail : List Char) (closing : Inliner)
    (next : Nat) : Prop where
  runs : after.run start (closer ++ rest) = closing.pop.run next rest
  frames : closing.frames = after.frames
  out : closing.out.toList = after.out.toList ++ tail
  thunks : closing.thunks = after.thunks

theorem closes_bracket {after : Inliner} {frame : Frame} {outer : List Frame}
    (top : after.frames = frame :: outer) (fits : frame.kind = .array) (start : Nat) (rest : List Char) :
    ∃ closing next, Closes after start [']'] rest [']'] closing next := by
  have found : recognise start ']' rest = .ok (.bracketClose, 0) := rfl
  obtain ⟨next, runs⟩ := after.run_char found
  rw [Inliner.step, Inliner.close_eq _ top fits] at runs
  exact ⟨_, next, runs, rfl, by simp [Inliner.emit], rfl⟩

theorem closes_brace {after : Inliner} {frame : Frame} {outer : List Frame}
    (top : after.frames = frame :: outer) (fits : frame.kind = .object) (start : Nat) (rest : List Char) :
    ∃ closing next, Closes after start ['}'] rest ['}'] closing next := by
  have found : recognise start '}' rest = .ok (.braceClose, 0) := rfl
  obtain ⟨next, runs⟩ := after.run_char found
  rw [Inliner.step, Inliner.close_eq _ top fits] at runs
  exact ⟨_, next, runs, rfl, by simp [Inliner.emit], rfl⟩

theorem closes_paren {after : Inliner} {frame : Frame} {outer : List Frame}
    (top : after.frames = frame :: outer) (fits : frame.kind = .functionBody) (start : Nat) (rest : List Char) :
    ∃ closing next, Closes after start [')'] rest [] closing next := by
  have found : recognise start ')' rest = .ok (.parenClose, 0) := rfl
  obtain ⟨next, runs⟩ := after.run_char found
  have isTop : after.topKind = some .functionBody := by simp [Inliner.topKind, top, fits]
  simp only [Inliner.step, isTop, if_true] at runs
  exact ⟨after, next, runs, rfl, by simp, rfl⟩

section Enclosed

variable {before inner after closing : Inliner} {start next last final : Nat}
  {opener text closer rest lead inlined tail : List Char} {kind : Construct} {bodyStart : Option Nat}
  {thunks recorded : List Thunk}

/-- The bracket is still the innermost one when all inside it has been passed. -/
theorem Opens.top (opens : Opens before start opener (text ++ (closer ++ rest)) lead kind bodyStart inner next)
    (inside : Passed inner next text (closer ++ rest) inlined thunks after last) :
    ∃ position, after.frames = ⟨kind, before.pendingKey, bodyStart, position⟩ :: before.frames := by
  obtain ⟨position, frames⟩ := opens.frames
  exact ⟨position, inside.frames.trans frames⟩

theorem Opens.enclosed
    (opens : Opens before start opener (text ++ (closer ++ rest)) lead kind bodyStart inner next)
    (inside : Passed inner next text (closer ++ rest) inlined thunks after last)
    (closes : Closes after last closer rest tail closing final)
    (records : closing.pop.thunks = recorded.reverse ++ closing.thunks) :
    Passed before start (opener ++ (text ++ closer)) rest (lead ++ (inlined ++ tail)) (thunks ++ recorded)
      closing.pop final ∧ closing.pop.expectKey = false := by
  obtain ⟨position, top⟩ := opens.top inside
  have closingTop := closes.frames.trans top
  refine ⟨⟨?_, ?_, Inliner.pop_frames closingTop, ?_⟩, Inliner.pop_expectKey closingTop⟩
  · calc before.run start (opener ++ (text ++ closer) ++ rest)
        = before.run start (opener ++ (text ++ (closer ++ rest))) := by simp
      _ = closing.pop.run final rest := by rw [opens.runs, inside.runs, closes.runs]
  · rw [Inliner.pop_out, closes.out, inside.out, opens.out]
    simp
  · rw [records, closes.thunks, inside.thunks, opens.thunks]
    simp

/-- A bracket that is no function adds no record to those of what it holds. -/
theorem Opens.enclosed_data
    (opens : Opens before start opener (text ++ (closer ++ rest)) lead kind none inner next)
    (inside : Passed inner next text (closer ++ rest) inlined thunks after last)
    (closes : Closes after last closer rest tail closing final) :
    ∃ after next, Passed before start (opener ++ (text ++ closer)) rest (lead ++ (inlined ++ tail)) thunks
      after next ∧ after.expectKey = false := by
  obtain ⟨position, top⟩ := opens.top inside
  have records : closing.pop.thunks = [].reverse ++ closing.thunks :=
    Inliner.pop_thunks_of_data (closes.frames.trans top) rfl
  have passed := opens.enclosed inside closes records
  rw [List.append_nil] at passed
  exact ⟨_, _, passed⟩

/-- A function is recorded after the functions in its body. -/
theorem Opens.enclosed_function
    (opens : Opens before start opener (text ++ (closer ++ rest)) lead kind before.bodyStart inner next)
    (inside : Passed inner next text (closer ++ rest) inlined thunks after last)
    (closes : Closes after last closer rest tail closing final) :
    ∃ after next, Passed before start (opener ++ (text ++ closer)) rest (lead ++ (inlined ++ tail))
      (thunks ++ record (framePath before.frames) before.pendingKey (lead ++ (inlined ++ tail)))
      after next ∧ after.expectKey = false := by
  obtain ⟨position, top⟩ := opens.top inside
  have out : closing.out.toList = before.out.toList ++ (lead ++ (inlined ++ tail)) := by
    rw [closes.out, inside.out, opens.out]
    simp
  exact ⟨_, _, opens.enclosed inside closes
    (Inliner.pop_thunks_of_function (closes.frames.trans top) rfl out)⟩

end Enclosed

theorem Opens.framePath {before inner : Inliner} {start next : Nat} {opener rest lead : List Char}
    {kind : Construct} {bodyStart : Option Nat}
    (opens : Opens before start opener rest lead kind bodyStart inner next) :
    Script.framePath inner.frames = Script.framePath before.frames ++ before.pendingKey.toList := by
  obtain ⟨position, frames⟩ := opens.frames
  rw [frames, framePath_cons]

theorem Opens.topKind {before inner : Inliner} {start next : Nat} {opener rest lead : List Char}
    {kind : Construct} {bodyStart : Option Nat}
    (opens : Opens before start opener rest lead kind bodyStart inner next) : inner.topKind = some kind := by
  obtain ⟨position, frames⟩ := opens.frames
  rw [Inliner.topKind, frames]
  rfl

@[simp] theorem Piece.allText_cons (piece : Piece) (pieces : List Piece) :
    allText (piece :: pieces) = piece.text ++ allText pieces :=
  List.flatMap_cons

@[simp] theorem Piece.allText_append (first second : List Piece) :
    allText (first ++ second) = allText first ++ allText second :=
  List.flatMap_append

@[simp] theorem Piece.allInlined_cons (piece : Piece) (pieces : List Piece) :
    allInlined (piece :: pieces) = piece.inlined ++ allInlined pieces :=
  List.flatMap_cons

@[simp] theorem Piece.allInlined_append (first second : List Piece) :
    allInlined (first ++ second) = allInlined first ++ allInlined second :=
  List.flatMap_append

@[simp] theorem Piece.allText_nil : allText [] = [] := rfl

@[simp] theorem Piece.allInlined_nil : allInlined [] = [] := rfl

/-- A comma ends what was said about keys. In an object the next key is due. -/
theorem passed_comma (state : Inliner) (start : Nat) (rest : List Char) :
    ∃ next, Passed state start [','] rest [','] []
      { state.emit [','] with pendingKey := none, expectKey := state.topKind = some .object } next := by
  have found : recognise start ',' rest = .ok (.comma, 0) := rfl
  obtain ⟨next, runs⟩ := state.run_char found
  exact ⟨next, runs, by simp [Inliner.emit], rfl, rfl⟩

theorem PropertyHead.passed (head : PropertyHead) (state : Inliner) (start : Nat) (rest : List Char)
    (atKey : state.expectKey = true) :
    ∃ after next, Passed state start (Piece.allText head.pieces) rest (Piece.allInlined head.pieces) [] after next ∧
      after.expectKey = false ∧ after.pendingKey = some (String.ofList head.key.name) := by
  have stops : Stops ([':'] ++ (head.afterColon.text ++ rest)) := rfl
  obtain ⟨first, key⟩ := head.key.passed state start (stops.trivia head.beforeColon) atKey
  obtain ⟨second, beforeColon⟩ := head.beforeColon.passed _ first ([':'] ++ (head.afterColon.text ++ rest))
  obtain ⟨third, colon⟩ := passed_colon _ second (head.afterColon.text ++ rest)
  obtain ⟨next, afterColon⟩ := head.afterColon.passed _ third rest
  have whole := ((key.trans beforeColon).trans colon).trans afterColon
  exact ⟨_, next, by simpa [PropertyHead.pieces, Piece.text, Piece.inlined] using whole, rfl, rfl⟩

/-- Inlining passes over the value wherever a value may stand, and then waits for no key. -/
def Value.Passes (value : Value) : Prop :=
  ∀ (state : Inliner) (start : Nat) (rest : List Char), Stops rest → state.expectKey = false →
    ∃ after next, Passed state start (Piece.allText value.pieces) rest (Piece.allInlined value.pieces)
      (value.thunks (framePath state.frames) state.pendingKey) after next ∧ after.expectKey = false

theorem Value.Passes.spaced {value : Value} (passes : value.Passes) (before after : Trivia) (state : Inliner)
    (start : Nat) {rest : List Char} (stops : Stops rest) (ready : state.expectKey = false) :
    ∃ final next, Passed state start (before.text ++ Piece.allText value.pieces ++ after.text) rest
      (before.text ++ Piece.allInlined value.pieces ++ after.text)
      (value.thunks (framePath state.frames) state.pendingKey) final next ∧ final.expectKey = false := by
  obtain ⟨first, lead⟩ := before.passed state start (Piece.allText value.pieces ++ (after.text ++ rest))
  obtain ⟨middle, second, body, settled⟩ := passes (state.emit before.text) first (after.text ++ rest)
    (stops.trivia after) ready
  obtain ⟨last, trail⟩ := after.passed middle second rest
  refine ⟨middle.emit after.text, last, ?_, settled⟩
  simpa using (lead.trans body).trans trail

theorem Value.Passes.property {value : Value} (passes : value.Passes) (before : Trivia) (head : PropertyHead)
    (after : Trivia) (state : Inliner) (start : Nat) {rest : List Char} (stops : Stops rest)
    (atKey : state.expectKey = true) :
    ∃ final next, Passed state start
      (before.text ++ Piece.allText head.pieces ++ (Piece.allText value.pieces ++ after.text)) rest
      (before.text ++ Piece.allInlined head.pieces ++ (Piece.allInlined value.pieces ++ after.text))
      (value.thunks (framePath state.frames) (some (String.ofList head.key.name))) final next := by
  obtain ⟨first, lead⟩ := before.passed state start
    (Piece.allText head.pieces ++ ((Piece.allText value.pieces ++ after.text) ++ rest))
  obtain ⟨keyed, second, property, ready, key⟩ := head.passed (state.emit before.text) first
    ((Piece.allText value.pieces ++ after.text) ++ rest) atKey
  obtain ⟨final, next, body, _⟩ := passes.spaced [] after keyed second stops ready
  rw [key, property.frames] at body
  exact ⟨final, next, by simpa using (lead.trans property).trans body⟩

mutual

/-- The induction over values. Every bracket that a value opens is closed in it, and the comma after
an element takes away the key that the element may have left. -/
theorem Value.passes (value : Value) : value.Passes := by
  intro state start rest stops ready
  match value with
  | .scalar scalar =>
    obtain ⟨next, passed⟩ := scalar.passed state start stops ready
    refine ⟨state.emit scalar.text, next, ?_, ready⟩
    simpa [Value.pieces, Value.thunks, Piece.text, Piece.inlined] using passed
  | .array items =>
    obtain ⟨inner, first, opens, same⟩ := opens_bracket state start (Piece.allText items.pieces ++ ([']'] ++ rest))
    obtain ⟨after, last, inside⟩ := items.passed inner first ([']'] ++ rest) rfl (same.trans ready)
      opens.pendingKey opens.topKind
    obtain ⟨position, top⟩ := opens.top inside
    obtain ⟨closing, final, closes⟩ := closes_bracket top rfl last rest
    rw [opens.framePath] at inside
    simpa [Value.pieces, Value.thunks, Piece.text, Piece.inlined] using opens.enclosed_data inside closes
  | .object members =>
    obtain ⟨inner, first, opens, atKey⟩ := opens_brace state start (Piece.allText members.pieces ++ (['}'] ++ rest))
    obtain ⟨after, last, inside⟩ := members.passed inner first (['}'] ++ rest) rfl atKey opens.topKind
    obtain ⟨position, top⟩ := opens.top inside
    obtain ⟨closing, final, closes⟩ := closes_brace top rfl last rest
    rw [opens.framePath] at inside
    simpa [Value.pieces, Value.thunks, Piece.text, Piece.inlined] using opens.enclosed_data inside closes
  | .function head before result after =>
    have stops : Stops ([')'] ++ rest) := rfl
    obtain ⟨inner, first, opens, same⟩ := head.opens_paren state start
      ((before.text ++ Piece.allText result.pieces ++ after.text) ++ ([')'] ++ rest))
    obtain ⟨body, last, inside, _⟩ := result.passes.spaced before after inner first stops (same.trans ready)
    obtain ⟨position, top⟩ := opens.top inside
    obtain ⟨closing, final, closes⟩ := closes_paren top rfl last rest
    rw [opens.framePath, opens.pendingKey] at inside
    simpa [Value.pieces, Value.thunks, Piece.text, Piece.inlined] using opens.enclosed_function inside closes
  | .listFunction head items =>
    obtain ⟨inner, first, opens, same⟩ := head.opens_bracket state start (Piece.allText items.pieces ++ ([']'] ++ rest))
    obtain ⟨after, last, inside⟩ := items.passed inner first ([']'] ++ rest) rfl (same.trans ready)
      opens.pendingKey opens.topKind
    obtain ⟨position, top⟩ := opens.top inside
    obtain ⟨closing, final, closes⟩ := closes_bracket top rfl last rest
    rw [opens.framePath] at inside
    simpa [Value.pieces, Value.thunks, Piece.text, Piece.inlined] using opens.enclosed_function inside closes

theorem Items.passed (items : Items) (state : Inliner) (start : Nat) (rest : List Char) (stops : Stops rest)
    (ready : state.expectKey = false) (noKey : state.pendingKey = none) (inArray : state.topKind = some .array) :
    ∃ after next, Passed state start (Piece.allText items.pieces) rest (Piece.allInlined items.pieces)
      (items.thunks (framePath state.frames)) after next := by
  match items with
  | .done space =>
    obtain ⟨next, passed⟩ := space.passed state start rest
    refine ⟨state.emit space.text, next, ?_⟩
    simpa [Items.pieces, Items.thunks, Piece.text, Piece.inlined] using passed
  | .last before value after =>
    obtain ⟨final, next, passed, _⟩ := value.passes.spaced before after state start stops ready
    rw [noKey] at passed
    exact ⟨final, next, by simpa [Items.pieces, Items.thunks, Piece.text, Piece.inlined] using passed⟩
  | .next before value after others =>
    have stops' : Stops ([','] ++ (Piece.allText others.pieces ++ rest)) := rfl
    obtain ⟨final, first, passed, _⟩ := value.passes.spaced before after state start stops' ready
    obtain ⟨second, comma⟩ := passed_comma final first (Piece.allText others.pieces ++ rest)
    have separated := passed.trans comma
    obtain ⟨last, next, others⟩ := others.passed _ second rest stops
      (by simp [passed.topKind, inArray]) rfl (separated.topKind.trans inArray)
    rw [separated.frames] at others
    rw [noKey] at separated
    refine ⟨last, next, ?_⟩
    simpa [Items.pieces, Items.thunks, Piece.text, Piece.inlined] using separated.trans others

theorem Members.passed (members : Members) (state : Inliner) (start : Nat) (rest : List Char) (stops : Stops rest)
    (atKey : state.expectKey = true) (inObject : state.topKind = some .object) :
    ∃ after next, Passed state start (Piece.allText members.pieces) rest (Piece.allInlined members.pieces)
      (members.thunks (framePath state.frames)) after next := by
  match members with
  | .done space =>
    obtain ⟨next, passed⟩ := space.passed state start rest
    refine ⟨state.emit space.text, next, ?_⟩
    simpa [Members.pieces, Members.thunks, Piece.text, Piece.inlined] using passed
  | .last before head value after =>
    obtain ⟨final, next, passed⟩ := value.passes.property before head after state start stops atKey
    exact ⟨final, next, by simpa [Members.pieces, Members.thunks, Piece.text, Piece.inlined] using passed⟩
  | .next before head value after others =>
    have stops' : Stops ([','] ++ (Piece.allText others.pieces ++ rest)) := rfl
    obtain ⟨final, first, passed⟩ := value.passes.property before head after state start stops' atKey
    obtain ⟨second, comma⟩ := passed_comma final first (Piece.allText others.pieces ++ rest)
    have separated := passed.trans comma
    obtain ⟨last, next, others⟩ := others.passed _ second rest stops
      (by simp [passed.topKind, inObject]) (separated.topKind.trans inObject)
    rw [separated.frames] at others
    refine ⟨last, next, ?_⟩
    simpa [Members.pieces, Members.thunks, Piece.text, Piece.inlined] using separated.trans others

end

end ThemeSense.Script
