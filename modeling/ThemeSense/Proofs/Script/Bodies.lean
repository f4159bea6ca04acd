import ThemeSense.Proofs.Script.Conserving

namespace ThemeSense.Script

/-- The lexeme ends the arrow of a function and opens its body. -/
def LexemeKind.opensBody : LexemeKind → Bool
  | .arrowParen _ => true
  | .arrowBracket _ => true
  | _ => false

namespace Inliner

section Moving

/-- All that a step can do with what is open and with what is recorded: it opens one more frame, it closes the
innermost one, or it leaves both as they are. -/
inductive Moves (before : Inliner) (kind : LexemeKind) (after : Inliner) : Prop
  | opens (frame : Frame) (frames : after.frames = frame :: before.frames) (thunks : after.thunks = before.thunks)
      (key : frame.key = before.pendingKey)
      (bodyStart : frame.bodyStart = if kind.opensBody then before.bodyStart else none)
  | closes (frame : Frame) (top : before.frames = frame :: after.frames) (closing : Inliner)
      (frames : closing.frames = before.frames) (thunks : closing.thunks = before.thunks) (pops : after = closing.pop)
      (noBody : kind.opensBody = false)
  | keeps (frames : after.frames = before.frames) (thunks : after.thunks = before.thunks)
      (noBody : kind.opensBody = false)

/-- A step takes nothing back of what is written. -/
structure Advances (before : Inliner) (kind : LexemeKind) (after : Inliner) : Prop where
  out : before.out.toList <+: after.out.toList
  moves : Moves before kind after

variable {kind : LexemeKind}

theorem advances_emit (state : Inliner) (text : List Char) (noBody : kind.opensBody = false) :
    Advances state kind (state.emit text) :=
  ⟨⟨text, (state.emit_out text).symm⟩, .keeps rfl rfl noBody⟩

theorem moves_pop {state closing : Inliner} {closed : Construct} (fits : closing.topKind = some closed)
    (frames : closing.frames = state.frames) (thunks : closing.thunks = state.thunks)
    (noBody : kind.opensBody = false) :
    Moves state kind closing.pop := by
  obtain ⟨frame, atTop, _⟩ := Option.map_eq_some_iff.mp fits
  obtain ⟨outer, top⟩ := List.head?_eq_some_iff.mp atTop
  have left : state.frames = frame :: closing.pop.frames := by rw [← frames, pop_frames top, top]
  exact .closes frame left closing frames thunks rfl noBody

theorem advances_close (state : Inliner) (closed : Construct) (text : List Char) (noBody : kind.opensBody = false) :
    Advances state kind (state.close closed text) := by
  refine ⟨⟨text, (state.close_out closed text).symm⟩, ?_⟩
  unfold close
  dsimp only
  split
  · next fits => exact moves_pop fits rfl rfl noBody
  · exact .keeps rfl rfl noBody

theorem advances_push (state : Inliner) (opened : Construct) {bodyStart : Option Nat}
    (body : bodyStart = if kind.opensBody then state.bodyStart else none) (start : Nat) (text : List Char) :
    Advances state kind ((state.push opened bodyStart start).emit text) :=
  ⟨⟨text, ((state.push opened bodyStart start).emit_out text).symm⟩, .opens _ rfl rfl rfl body⟩

theorem advances_word (state : Inliner) (start : Nat) (text : List Char) :
    Advances state .word (state.step ⟨.word, start, text⟩) := by
  cases due : state.expectKey with
  | false =>
    have copied : state.step ⟨.word, start, text⟩ = state.emit text := by simp [step, due]
    rw [copied]
    exact state.advances_emit text rfl
  | true =>
    refine ⟨⟨_, (state.writes_word text start).out.symm⟩, .keeps ?_ ?_ rfl⟩
    · simp [step, due, takeKey]
    · simp [step, due, takeKey, emit]

theorem advances_step (state : Inliner) (lexeme : Lexeme) : Advances state lexeme.kind (state.step lexeme) := by
  obtain ⟨kind, start, text⟩ := lexeme
  cases kind with
  | quoted =>
    obtain ⟨out, frames, thunks, _⟩ := step_quoted state start text
    exact ⟨⟨text, out.symm⟩, .keeps frames thunks rfl⟩
  | comment | other => exact state.advances_emit text rfl
  | braceOpen => exact ⟨⟨text, ((state.push .object none start).emit_out text).symm⟩, .opens _ rfl rfl rfl rfl⟩
  | bracketOpen => exact state.advances_push .array rfl start text
  | braceClose => exact state.advances_close .object text rfl
  | bracketClose => exact state.advances_close .array text rfl
  | arrowParen body =>
    have opened : Advances state (.arrowParen body) ((state.push .functionBody state.bodyStart body).emit []) :=
      state.advances_push .functionBody rfl body []
    rwa [emit_nil] at opened
  | arrowBracket body => exact state.advances_push .array rfl body ['[']
  | parenClose =>
    by_cases inFunction : state.topKind = some .functionBody
    · have popped : state.step ⟨.parenClose, start, text⟩ = state.pop := if_pos inFunction
      rw [popped]
      exact ⟨⟨[], by rw [List.append_nil, pop_out]⟩, moves_pop inFunction rfl rfl rfl⟩
    · have copied : state.step ⟨.parenClose, start, text⟩ = state.emit text := if_neg inFunction
      rw [copied]
      exact state.advances_emit text rfl
  | comma => exact ⟨⟨text, (state.emit_out text).symm⟩, .keeps rfl rfl rfl⟩
  | semicolon =>
    cases outside : state.frames.isEmpty with
    | true =>
      have skipped : state.step ⟨.semicolon, start, text⟩ = state := by simp [step, outside]
      rw [skipped]
      exact ⟨List.prefix_rfl, .keeps rfl rfl rfl⟩
    | false =>
      have copied : state.step ⟨.semicolon, start, text⟩ = state.emit text := by simp [step, outside]
      rw [copied]
      exact state.advances_emit text rfl
  | word => exact state.advances_word start text

end Moving

/-- The state behind the first `count` lexemes. -/
def behind (pieces : List Lexeme) (count : Nat) : Inliner :=
  (pieces.take count).foldl step start

/-- How much is written behind the first `count` lexemes, in bytes. -/
def offsetBehind (pieces : List Lexeme) (count : Nat) : Nat :=
  Text.bytes (behind pieces count).out.toList

variable {pieces : List Lexeme} {count : Nat}

theorem behind_succ {lexeme : Lexeme} (here : pieces[count]? = some lexeme) :
    behind pieces (count + 1) = (behind pieces count).step lexeme := by
  rw [behind, List.take_add_one, here, Option.toList_some, List.foldl_concat]
  rfl

theorem behind_advances {lexeme : Lexeme} (here : pieces[count]? = some lexeme) :
    Advances (behind pieces count) lexeme.kind (behind pieces (count + 1)) := by
  rw [behind_succ here]
  exact advances_step _ lexeme

theorem foldl_out (state : Inliner) (pieces : List Lexeme) :
    state.out.toList <+: (pieces.foldl step state).out.toList := by
  induction pieces generalizing state with
  | nil => exact List.prefix_rfl
  | cons lexeme pieces ih => exact (state.advances_step lexeme).out.trans (ih _)

theorem behind_out (pieces : List Lexeme) {i j : Nat} (le : i ≤ j) :
    (behind pieces i).out.toList <+: (behind pieces j).out.toList := by
  obtain ⟨more, joined⟩ := List.take_prefix_take_left (l := pieces) le
  rw [behind, behind, ← joined, List.foldl_append]
  exact foldl_out _ more

theorem offsetBehind_mono (pieces : List Lexeme) {i j : Nat} (le : i ≤ j) :
    offsetBehind pieces i ≤ offsetBehind pieces j := by
  obtain ⟨more, joined⟩ := behind_out pieces le
  rw [offsetBehind, offsetBehind, ← joined, Text.bytes_append]
  exact Nat.le_add_right _ _

end Inliner

open Inliner (behind offsetBehind)

section Frames

variable {pieces : List Lexeme} {opening count : Nat} {frame : Frame} {key : String}

/-- The lexeme at `opening` opens a frame. -/
structure OpensFrame (pieces : List Lexeme) (opening : Nat) (frame : Frame) : Prop where
  frames : (behind pieces (opening + 1)).frames = frame :: (behind pieces opening).frames
  key : frame.key = (behind pieces opening).pendingKey
  bodyStart : ∃ lexeme, pieces[opening]? = some lexeme ∧
    frame.bodyStart = if lexeme.kind.opensBody then (behind pieces opening).bodyStart else none

/-- The lexeme at `opening` opens the body of a function that is the value of a property. -/
structure OpensBody (pieces : List Lexeme) (opening : Nat) (key : String) : Prop where
  isFunction : ∃ lexeme, pieces[opening]? = some lexeme ∧ lexeme.kind.opensBody = true
  isValue : (behind pieces opening).pendingKey = some key

/-- What is open behind the lexeme at `opening` has been open ever since, up to behind the first `count` lexemes. -/
structure Standing (pieces : List Lexeme) (opening count : Nat) : Prop where
  before : opening < count
  stays : ∀ middle, opening < middle → middle ≤ count →
    (behind pieces (opening + 1)).frames <:+ (behind pieces middle).frames

theorem standing_self (pieces : List Lexeme) (opening : Nat) : Standing pieces opening (opening + 1) := by
  refine ⟨Nat.lt_succ_self opening, fun middle after upTo => ?_⟩
  obtain rfl : middle = opening + 1 := by omega
  exact List.suffix_rfl

theorem Standing.succ (standing : Standing pieces opening count)
    (still : (behind pieces (opening + 1)).frames <:+ (behind pieces (count + 1)).frames) :
    Standing pieces opening (count + 1) := by
  refine ⟨standing.before.trans (Nat.lt_succ_self count), fun middle after upTo => ?_⟩
  rcases Nat.lt_or_ge count middle with last | earlier
  · have same : middle = count + 1 := by omega
    rwa [same]
  · exact standing.stays middle after earlier

theorem Standing.suffix (standing : Standing pieces opening count) :
    (behind pieces (opening + 1)).frames <:+ (behind pieces count).frames :=
  standing.stays count standing.before le_rfl

theorem OpensBody.opensFrame (opens : OpensBody pieces opening key) :
    ∃ frame, OpensFrame pieces opening frame ∧ frame.key = some key := by
  obtain ⟨⟨lexeme, here, isFunction⟩, isValue⟩ := opens
  cases (Inliner.behind_advances here).moves with
  | opens frame frames _ isKey bodyStart => exact ⟨frame, ⟨frames, isKey, lexeme, here, bodyStart⟩, isKey.trans isValue⟩
  | closes _ _ _ _ _ _ noBody | keeps _ _ noBody =>
    rw [isFunction] at noBody
    cases noBody

/-- Every frame that is open has been opened by some lexeme, and been open ever since. -/
theorem exists_opening (inside : count ≤ pieces.length) {outer : List Frame}
    (isOpen : frame :: outer <:+ (behind pieces count).frames) :
    ∃ opening, OpensFrame pieces opening frame ∧ (behind pieces opening).frames = outer ∧
      Standing pieces opening count := by
  induction count with
  | zero => cases List.suffix_nil.mp isOpen
  | succ count ih =>
    have here := List.getElem?_eq_getElem (show count < pieces.length from inside)
    -- what was open before this lexeme and still is goes on standing
    have earlier (before : frame :: outer <:+ (behind pieces count).frames) :
        ∃ opening, OpensFrame pieces opening frame ∧ (behind pieces opening).frames = outer ∧
          Standing pieces opening (count + 1) := by
      obtain ⟨opening, opens, around, standing⟩ := ih (Nat.le_of_succ_le inside) before
      refine ⟨opening, opens, around, standing.succ ?_⟩
      rwa [opens.frames, around]
    cases (Inliner.behind_advances here).moves with
    | opens newest frames _ isKey bodyStart =>
      rw [frames] at isOpen
      rcases List.suffix_cons_iff.mp isOpen with same | before
      · cases same
        exact ⟨count, ⟨frames, isKey, _, here, bodyStart⟩, rfl, standing_self pieces count⟩
      · exact earlier before
    | closes closed top =>
      rw [top] at earlier
      exact earlier (isOpen.trans (List.suffix_cons closed _))
    | keeps frames =>
      rw [frames] at isOpen
      exact earlier isOpen

/-- Two lexemes do not open the same frame. -/
theorem opening_unique {first second : Nat} {frame frame' : Frame} (firstOpens : OpensFrame pieces first frame)
    (secondOpens : OpensFrame pieces second frame') (firstStands : Standing pieces first count)
    (secondStands : Standing pieces second count)
    (same : (behind pieces (first + 1)).frames = (behind pieces (second + 1)).frames) : first = second := by
  have higher {i j : Nat} {frame : Frame} (stands : Standing pieces i count) (before : i < j)
      (opens : OpensFrame pieces j frame) (upTo : j < count) :
      (behind pieces (i + 1)).frames.length < (behind pieces (j + 1)).frames.length := by
    have under := (stands.stays j before upTo.le).length_le
    rw [opens.frames, List.length_cons]
    omega
  have height := congrArg List.length same
  rcases Nat.lt_trichotomy first second with before | equal | after
  · have less := higher firstStands before secondOpens secondStands.before
    omega
  · exact equal
  · have less := higher secondStands after firstOpens firstStands.before
    omega

end Frames

/-- A function that is recorded, from the lexeme that opens its body to the one that closes it. The body is what the
finished source has between what was written before the one and what was written up to the other. -/
structure Recorded (pieces : List Lexeme) (source : String) where
  thunk : Thunk
  opening : Nat
  closing : Nat
  name : String
  opens : OpensBody pieces opening name
  standing : Standing pieces opening closing
  within : closing < pieces.length
  closes : (behind pieces (closing + 1)).frames = (behind pieces opening).frames
  key : thunk.key = Inliner.path (behind pieces opening).frames name
  body : Text.slice? source.toList (offsetBehind pieces opening) (offsetBehind pieces (closing + 1)) =
    some thunk.body.toList

namespace Recorded

variable {pieces : List Lexeme} {source : String}

def start (recorded : Recorded pieces source) : Nat :=
  offsetBehind pieces recorded.opening

def stop (recorded : Recorded pieces source) : Nat :=
  offsetBehind pieces (recorded.closing + 1)

/-- The second body is opened when the first one has been closed, and lies behind it. -/
structure Precedes (first second : Recorded pieces source) : Prop where
  closed : first.closing < second.opening
  disjoint : first.stop ≤ second.start

/-- The inner body is opened and closed while the outer one is open, lies inside it, and has a key that goes on from
that of the outer one. -/
structure LiesInside (inner outer : Recorded pieces source) : Prop where
  opened : outer.opening < inner.opening
  closed : inner.closing < outer.closing
  start : outer.start ≤ inner.start
  stop : inner.stop ≤ outer.stop
  key : ∃ rest, inner.thunk.key = outer.thunk.key ++ "." ++ rest

theorem length_frames (recorded : Recorded pieces source) :
    (behind pieces (recorded.opening + 1)).frames.length = (behind pieces recorded.opening).frames.length + 1 := by
  obtain ⟨frame, opens, _⟩ := recorded.opens.opensFrame
  rw [opens.frames, List.length_cons]

/-- The path of a key inside some frames goes on from the path of a key of one of them. -/
theorem path_of_suffix {frame : Frame} {outer frames : List Frame} {first second : String}
    (isOpen : frame :: outer <:+ frames) (isKey : frame.key = some first) :
    ∃ rest, Inliner.path frames second = Inliner.path outer first ++ "." ++ rest := by
  obtain ⟨inner, rfl⟩ := isOpen
  have names : framePath (inner ++ frame :: outer) = framePath outer ++ [first] ++ framePath inner := by
    simp [framePath, isKey]
  refine ⟨".".intercalate (framePath inner ++ [second]), ?_⟩
  have outerPath : Inliner.path outer first = ".".intercalate (framePath outer ++ [first]) := rfl
  have path : Inliner.path (inner ++ frame :: outer) second =
      ".".intercalate (framePath (inner ++ frame :: outer) ++ [second]) := rfl
  rw [path, names, outerPath, List.append_assoc, String.intercalate_append_of_ne_nil (by simp) (by simp)]

theorem liesInside {inner outer : Recorded pieces source} (opened : outer.opening < inner.opening)
    (closed : inner.closing < outer.closing) : inner.LiesInside outer := by
  have between : inner.opening ≤ outer.closing := (inner.standing.before.trans closed).le
  have isOpen := outer.standing.stays inner.opening opened between
  obtain ⟨frame, opens, isKey⟩ := outer.opens.opensFrame
  rw [opens.frames] at isOpen
  refine ⟨opened, closed, Inliner.offsetBehind_mono pieces opened.le,
    Inliner.offsetBehind_mono pieces (Nat.succ_le_succ closed.le), ?_⟩
  rw [inner.key, outer.key]
  exact path_of_suffix isOpen isKey

/-- Of two bodies the one that is closed first precedes the other or lies inside it. -/
theorem precedes_or_liesInside {earlier later : Recorded pieces source} (closed : earlier.closing < later.closing) :
    earlier.Precedes later ∨ earlier.LiesInside later := by
  have earlierFrames := earlier.length_frames
  have laterFrames := later.length_frames
  have closes := congrArg List.length earlier.closes
  by_cases opened : later.opening < earlier.opening
  · exact .inr (liesInside opened closed)
  · left
    have behindEarlier : earlier.closing < later.opening := by
      by_contra notBehind
      -- the later body would still be open where the earlier one has just been closed, and with it all below it
      have higher := (later.standing.stays (earlier.closing + 1) (by omega) (by omega)).length_le
      rcases Nat.lt_or_ge earlier.opening later.opening with after | same
      · have lower := (earlier.standing.stays later.opening after (by omega)).length_le
        omega
      · have equal : earlier.opening = later.opening := by omega
        rw [equal] at closes
        omega
    exact ⟨behindEarlier, Inliner.offsetBehind_mono pieces behindEarlier⟩

end Recorded

section Recording

variable {pieces : List Lexeme} {source : String} {count : Nat}

/-- A frame that is closed is recorded if it is that of a function that is the value of a property. -/
theorem thunks_of_pop {closing : Inliner} {opening : Nat} {frame : Frame} (opens : OpensFrame pieces opening frame)
    (top : closing.frames = frame :: (behind pieces opening).frames) {body : List Char}
    (out : closing.out.toList = (behind pieces opening).out.toList ++ body) :
    (∃ name, OpensBody pieces opening name ∧
        closing.pop.thunks = ⟨Inliner.path (behind pieces opening).frames name, String.ofList body⟩ :: closing.thunks) ∨
      (∀ name, ¬ OpensBody pieces opening name) ∧ closing.pop.thunks = closing.thunks := by
  obtain ⟨frames, isKey, lexeme, here, bodyStart⟩ := opens
  cases isFunction : lexeme.kind.opensBody with
  | false =>
    rw [isFunction] at bodyStart
    refine .inr ⟨fun name opensBody => ?_, Inliner.pop_thunks_of_data top bodyStart⟩
    obtain ⟨other, there, otherIs⟩ := opensBody.isFunction
    rw [here] at there
    cases there
    rw [isFunction] at otherIs
    cases otherIs
  | true =>
    rw [isFunction, if_pos rfl, Inliner.bodyStart, ← isKey] at bodyStart
    have thunks := Inliner.pop_thunks_of_function top bodyStart out
    cases name : (behind pieces opening).pendingKey with
    | none =>
      rw [isKey, name] at thunks
      refine .inr ⟨fun other opensBody => ?_, thunks⟩
      cases name.symm.trans opensBody.isValue
    | some name' =>
      rw [isKey, name] at thunks
      exact .inl ⟨name', ⟨⟨lexeme, here, isFunction⟩, name⟩, thunks⟩

/-- The records behind the first `count` lexemes: those of all the bodies that have been closed, in the order in which
they were closed. -/
structure Accounts (count : Nat) (recorded : List (Recorded pieces source)) : Prop where
  thunks : (behind pieces count).thunks.reverse = recorded.map (·.thunk)
  closed : ∀ body ∈ recorded, body.closing < count
  ordered : recorded.Pairwise fun earlier later => earlier.closing < later.closing
  complete : ∀ opening name, opening < count → OpensBody pieces opening name →
    Standing pieces opening count ∨ ∃ body ∈ recorded, body.opening = opening

variable {recorded : List (Recorded pieces source)}

theorem accounts_start : Accounts 0 ([] : List (Recorded pieces source)) := by
  refine ⟨rfl, fun body member => ?_, .nil, fun opening name before => ?_⟩
  · cases member
  · omega

theorem Accounts.unchanged (accounts : Accounts count recorded)
    (thunks : (behind pieces (count + 1)).thunks = (behind pieces count).thunks)
    (complete : ∀ opening name, opening < count + 1 → OpensBody pieces opening name →
      Standing pieces opening (count + 1) ∨ ∃ body ∈ recorded, body.opening = opening) :
    Accounts (count + 1) recorded := by
  refine ⟨by rw [thunks, accounts.thunks], fun body member => ?_, accounts.ordered, complete⟩
  exact (accounts.closed body member).trans (Nat.lt_succ_self count)

/-- Where nothing is closed, all that was open still is. -/
theorem Accounts.keep (accounts : Accounts count recorded)
    (frames : (behind pieces count).frames <:+ (behind pieces (count + 1)).frames)
    (thunks : (behind pieces (count + 1)).thunks = (behind pieces count).thunks) : Accounts (count + 1) recorded := by
  refine accounts.unchanged thunks fun opening name before opens => ?_
  rcases Nat.lt_succ_iff_lt_or_eq.mp before with earlier | rfl
  · exact (accounts.complete opening name earlier opens).imp_left fun standing =>
      standing.succ (standing.suffix.trans frames)
  · exact .inl (standing_self pieces opening)

/-- A lexeme that closes a frame leaves all others open. -/
theorem Standing.succ_or_eq {opening other : Nat} {frame frame' : Frame} (opens : OpensFrame pieces opening frame)
    (standing : Standing pieces opening count) (otherOpens : OpensFrame pieces other frame')
    (otherStanding : Standing pieces other count)
    (closes : (behind pieces count).frames = (behind pieces (opening + 1)).frames)
    (left : (behind pieces (count + 1)).frames = (behind pieces opening).frames) :
    Standing pieces other (count + 1) ∨ other = opening := by
  have isOpen := otherStanding.suffix
  rw [closes, opens.frames] at isOpen
  rcases List.suffix_cons_iff.mp isOpen with same | others
  · right
    exact opening_unique otherOpens opens otherStanding standing (same.trans opens.frames.symm)
  · left
    exact otherStanding.succ (left ▸ others)

/-- The body of a function is recorded as the piece of the source that is written while it is open. -/
theorem exists_recorded (whole : (behind pieces pieces.length).out.toList = source.toList)
    (inside : count < pieces.length)
    {opening : Nat} {name : String} (opens : OpensBody pieces opening name) (standing : Standing pieces opening count)
    (closes : (behind pieces (count + 1)).frames = (behind pieces opening).frames) {body : List Char}
    (written : (behind pieces opening).out.toList ++ body = (behind pieces (count + 1)).out.toList) :
    ∃ newest : Recorded pieces source, newest.opening = opening ∧ newest.closing = count ∧
      newest.thunk = ⟨Inliner.path (behind pieces opening).frames name, String.ofList body⟩ := by
  obtain ⟨rest, split⟩ := Inliner.behind_out pieces (Nat.succ_le_of_lt inside)
  have cut : Text.slice? source.toList (offsetBehind pieces opening) (offsetBehind pieces (count + 1)) =
      some (String.ofList body).toList := by
    rw [String.toList_ofList, ← whole, ← split, offsetBehind, offsetBehind, ← written]
    exact Text.slice?_append ..
  exact ⟨⟨_, opening, count, name, opens, standing, inside, closes, rfl, cut⟩, rfl, rfl, rfl⟩

theorem Accounts.concat (accounts : Accounts count recorded) (newest : Recorded pieces source)
    (closing : newest.closing = count)
    (thunks : (behind pieces (count + 1)).thunks = newest.thunk :: (behind pieces count).thunks)
    (others : ∀ other name, other < count + 1 → OpensBody pieces other name →
      Standing pieces other (count + 1) ∨ other = newest.opening ∨ ∃ body ∈ recorded, body.opening = other) :
    Accounts (count + 1) (recorded ++ [newest]) := by
  refine ⟨?_, fun body member => ?_, ?_, fun other name before opens => ?_⟩
  · rw [thunks, List.reverse_cons, accounts.thunks, List.map_append]
    rfl
  · rcases List.mem_append.mp member with old | new
    · exact (accounts.closed body old).trans (Nat.lt_succ_self count)
    · rw [List.mem_singleton.mp new, closing]
      exact Nat.lt_succ_self count
  · refine List.pairwise_append.mpr ⟨accounts.ordered, List.pairwise_singleton .., fun body old last new => ?_⟩
    rw [List.mem_singleton.mp new, closing]
    exact accounts.closed body old
  · rcases others other name before opens with stands | same | ⟨body, old, same⟩
    · exact .inl stands
    · exact .inr ⟨newest, List.mem_append_right _ List.mem_cons_self, same.symm⟩
    · exact .inr ⟨body, List.mem_append_left _ old, same⟩

/-- Where a frame is closed, it is recorded if it is that of a property's function, and all other frames stay open. -/
theorem Accounts.close (accounts : Accounts count recorded) (inside : count < pieces.length)
    (whole : (behind pieces pieces.length).out.toList = source.toList) {frame : Frame} {closing : Inliner}
    (top : (behind pieces count).frames = frame :: (behind pieces (count + 1)).frames)
    (frames : closing.frames = (behind pieces count).frames) (thunks : closing.thunks = (behind pieces count).thunks)
    (pops : behind pieces (count + 1) = closing.pop) :
    ∃ recorded : List (Recorded pieces source), Accounts (count + 1) recorded := by
  have isOpen : frame :: (behind pieces (count + 1)).frames <:+ (behind pieces count).frames := ⟨[], top.symm⟩
  obtain ⟨opening, opens, around, standing⟩ := exists_opening inside.le isOpen
  obtain ⟨body, written⟩ := Inliner.behind_out pieces (standing.before.le.trans (Nat.le_succ count))
  have out : closing.out.toList = (behind pieces opening).out.toList ++ body := by
    rw [written, pops, Inliner.pop_out]
  have closingTop : closing.frames = frame :: (behind pieces opening).frames := by rw [frames, top, around]
  have closes : (behind pieces count).frames = (behind pieces (opening + 1)).frames := by
    rw [top, opens.frames, around]
  have others (other : Nat) (name : String) (before : other < count + 1) (opensOther : OpensBody pieces other name) :
      Standing pieces other (count + 1) ∨ other = opening ∨ ∃ body ∈ recorded, body.opening = other := by
    rcases Nat.lt_succ_iff_lt_or_eq.mp before with earlier | rfl
    · rcases accounts.complete other name earlier opensOther with stands | done
      · obtain ⟨_, otherOpens, _⟩ := opensOther.opensFrame
        exact (standing.succ_or_eq opens otherOpens stands closes around.symm).imp_right .inl
      · exact .inr (.inr done)
    · exact .inl (standing_self pieces other)
  rcases thunks_of_pop opens closingTop out with ⟨name, opensBody, records⟩ | ⟨noBody, records⟩
  · obtain ⟨newest, rfl, closing, thunk⟩ := exists_recorded whole inside opensBody standing around.symm written
    exact ⟨_, accounts.concat newest closing (by rw [pops, records, thunks, thunk]) others⟩
  · refine ⟨recorded, accounts.unchanged (by rw [pops, records, thunks]) fun other name before opensOther => ?_⟩
    rcases others other name before opensOther with stands | rfl | done
    · exact .inl stands
    · exact absurd opensOther (noBody name)
    · exact .inr done

/-- Behind every lexeme all that has been closed is recorded. -/
theorem exists_accounts (whole : (behind pieces pieces.length).out.toList = source.toList)
    (inside : count ≤ pieces.length) :
    ∃ recorded : List (Recorded pieces source), Accounts count recorded := by
  induction count with
  | zero => exact ⟨[], accounts_start⟩
  | succ count ih =>
    obtain ⟨recorded, accounts⟩ := ih (Nat.le_of_succ_le inside)
    have here := List.getElem?_eq_getElem (show count < pieces.length from inside)
    cases (Inliner.behind_advances here).moves with
    | opens frame frames thunks => exact ⟨recorded, accounts.keep (frames ▸ List.suffix_cons frame _) thunks⟩
    | closes frame top closing frames thunks pops => exact accounts.close inside whole top frames thunks pops
    | keeps frames thunks => exact ⟨recorded, accounts.keep (frames ▸ List.suffix_rfl) thunks⟩

end Recording

theorem lexemes_of_inline {script : String} {result : Inlined} (inlined : inline script = .ok result) :
    ∃ expression pieces, exportedExpression script.toList = .ok expression ∧ lexemes 0 expression = .ok pieces ∧
      (behind pieces pieces.length).finish = .ok result := by
  obtain ⟨expression, final, exported, runs, finished⟩ := run_of_inline inlined
  cases cut : lexemes 0 expression with
  | error e =>
    rw [Inliner.run, cut] at runs
    cases runs
  | ok pieces =>
    rw [Inliner.run, cut] at runs
    cases runs
    refine ⟨expression, pieces, exported, cut, ?_⟩
    rw [behind, List.take_length]
    exact finished

theorem thunks_of_finish {final : Inliner} {result : Inlined} (finished : final.finish = .ok result) :
    final.frames = [] ∧ result.thunks = final.thunks.reverse := by
  unfold Inliner.finish at finished
  split at finished
  · next closed =>
    cases finished
    exact ⟨closed, rfl⟩
  · cases finished

/-- What the records of a script are. Each body is a piece of the source, as every `Recorded` is, and no function that
is the value of a property is left out. -/
structure Nests (pieces : List Lexeme) (result : Inlined) (recorded : List (Recorded pieces result.source)) : Prop where
  thunks : result.thunks = recorded.map (·.thunk)
  ordered : recorded.Pairwise fun earlier later => earlier.stop ≤ later.stop
  nested : recorded.Pairwise fun earlier later => earlier.Precedes later ∨ earlier.LiesInside later
  complete : ∀ opening name, OpensBody pieces opening name → ∃ body ∈ recorded, body.opening = opening

/-- The bodies of the functions that are recorded are pieces of the source, in the order of their ends, and of any two
of them the first is before the second or inside it. -/
theorem recorded_bodies_nest {script : String} {result : Inlined} (inlined : inline script = .ok result) :
    ∃ expression pieces recorded, exportedExpression script.toList = .ok expression ∧
      lexemes 0 expression = .ok pieces ∧
      Nests pieces result recorded := by
  obtain ⟨expression, pieces, exported, cut, finished⟩ := lexemes_of_inline inlined
  obtain ⟨closed, thunks⟩ := thunks_of_finish finished
  obtain ⟨recorded, accounts⟩ := exists_accounts (source_of_finish finished).symm le_rfl
  refine ⟨expression, pieces, recorded, exported, cut, thunks.trans accounts.thunks, ?_, ?_, ?_⟩
  · exact accounts.ordered.imp fun before => Inliner.offsetBehind_mono pieces (Nat.succ_le_succ before.le)
  · exact accounts.ordered.imp Recorded.precedes_or_liesInside
  · intro opening name opens
    obtain ⟨lexeme, here, _⟩ := opens.isFunction
    have inside : opening < pieces.length := (List.getElem?_eq_some_iff.mp here).1
    rcases accounts.complete opening name inside opens with standing | done
    · obtain ⟨frame, opensFrame, _⟩ := opens.opensFrame
      have isOpen := standing.suffix
      rw [closed, opensFrame.frames] at isOpen
      cases List.suffix_nil.mp isOpen
    · exact done

/-- Two bodies inside a third one, of which one holds a bracket that closes nothing, and an empty one behind them. -/
theorem recorded_bodies_nest_around_misfit :
    let script := "module.exports=\x7ba:()=>(\x7b'é':()=>[1],f:\x7bg:()=>(]2)\x7d\x7d),b:()=>()\x7d"
    let result : Inlined := ⟨"\x7ba:\x7b'é':[1],f:\x7bg:]2\x7d\x7d,b:\x7d",
      [⟨"a.é", "[1]"⟩, ⟨"a.f.g", "]2"⟩, ⟨"a", "\x7b'é':[1],f:\x7bg:]2\x7d\x7d"⟩, ⟨"b", ""⟩]⟩
    inline script = .ok result ∧
      ∃ expression pieces recorded, exportedExpression script.toList = .ok expression ∧
        lexemes 0 expression = .ok pieces ∧ Nests pieces result recorded := by
  dsimp only
  refine (fun inlined => ⟨inlined, recorded_bodies_nest inlined⟩) ?_
  with_unfolding_all rfl

end ThemeSense.Script
