import ThemeSense.Proofs.Text.Utf8
import ThemeSense.Script.Inline

namespace ThemeSense.Script

open Text (utf8 Shows lt_of_shows)

/-- Why scanning by bytes ends early: something is wrong with the script, or the scanner reads what is out of bounds
or cuts through a character. -/
inductive Halt where
  | misread
  | error (e : Error)

/-- The text between two byte offsets, of which neither may be inside a character. -/
def cut (text : List Char) (start stop : Nat) : Except Halt (List Char) :=
  match Text.slice? text start stop with
  | some piece => .ok piece
  | none => .error .misread

def cutFrom (text : List Char) (start : Nat) : Except Halt (List Char) :=
  cut text start (Text.bytes text)

theorem slice?_of_cut {text piece : List Char} {start stop : Nat} (taken : cut text start stop = .ok piece) :
    ∃ before after, text = before ++ piece ++ after ∧ Text.bytes before = start ∧
      Text.bytes (before ++ piece) = stop := by
  unfold cut at taken
  split at taken
  · next found =>
    cases taken
    exact Text.slice?_eq_some_iff.mp found
  · cases taken

theorem cut_eq {text before piece after : List Char} {start stop : Nat} (here : text = before ++ piece ++ after)
    (atStart : start = Text.bytes before) (atStop : stop = Text.bytes (before ++ piece)) :
    cut text start stop = .ok piece := by
  rw [cut, here, atStart, atStop, Text.slice?_append]

theorem cutFrom_eq {text before rest : List Char} {start : Nat} (here : text = before ++ rest)
    (atStart : start = Text.bytes before) : cutFrom text start = .ok rest :=
  cut_eq (by rw [here, List.append_nil]) atStart (by rw [here])

theorem ok_of_bind {α β : Type} {first : Except Halt α} {later : α → Except Halt β} {b : β}
    (done : first.bind later = .ok b) : ∃ a, first = .ok a ∧ later a = .ok b := by
  cases first with
  | error halt => cases done
  | ok a => exact ⟨a, rfl, done⟩

theorem ok_of_ite {α : Type} {p : Prop} [Decidable p] {first second : Except Halt α} {a : α}
    (done : (if p then first else second) = .ok a) : p ∧ first = .ok a ∨ ¬ p ∧ second = .ok a := by
  by_cases holds : p
  · rw [if_pos holds] at done
    exact .inl ⟨holds, done⟩
  · rw [if_neg holds] at done
    exact .inr ⟨holds, done⟩

section Bytes

/-- How many bytes come before the first place that shows the needle. -/
def indexOf? (needle : List Char) : List UInt8 → Option Nat
  | [] => none
  | b :: rest => if Shows (b :: rest) 0 needle then some 0 else (indexOf? needle rest).map (· + 1)

def find? (bytes : List UInt8) (needle : List Char) (pos : Nat) : Option Nat :=
  (indexOf? needle (bytes.drop pos)).map (pos + ·)

/-- The end of the run of bytes of a kind that starts at an offset. -/
def runEnd (bytes : List UInt8) (member : UInt8 → Bool) (pos : Nat) : Nat :=
  pos + ((bytes.drop pos).takeWhile member).length

/-- How many bytes come before the closing quote. A backslash hides the byte behind it, which may be only the first of
its character. -/
def closing? (quote : UInt8) : List UInt8 → Option Nat
  | [] => none
  | b :: rest =>
    if b = '\n'.toUInt8 then none
    else if b = '\\'.toUInt8 then (closing? quote (rest.drop 1)).map (· + 2)
    else if b = quote then some 0
    else (closing? quote rest).map (· + 1)
termination_by bytes => bytes.length
decreasing_by all_goals simp only [List.length_drop, List.length_cons]; omega

/-- What one turn of skipping leads to: another turn at an offset, or the end there. -/
inductive Skip where
  | again (pos : Nat)
  | done (pos : Nat)

def skipTurn (bytes : List UInt8) (pos : Nat) : Skip :=
  if Shows bytes pos ['/', '/'] then .again (runEnd bytes (· ≠ '\n'.toUInt8) pos)
  else if Shows bytes pos ['/', '*'] then
    match find? bytes ['*', '/'] (pos + 2) with
    | some stop => .again (stop + 2)
    | none => .done bytes.length
  else
    match bytes[pos]? with
    | some b => if isAsciiBlank (Char.ofUInt8 b) then .again (pos + 1) else .done pos
    | none => .done pos

variable {bytes : List UInt8} {pos next : Nat}

theorem le_of_find? {needle : List Char} {stop : Nat} (found : find? bytes needle pos = some stop) : pos ≤ stop := by
  obtain ⟨count, _, rfl⟩ := Option.map_eq_some_iff.mp found
  exact Nat.le_add_right pos count

theorem getElem?_of_shows {c : Char} {text : List Char} (shows : Shows bytes pos (c :: text)) :
    bytes[pos]? = some c.toUInt8 := by
  obtain ⟨rest, same⟩ := shows
  have first : (bytes.drop pos)[0]? = some c.toUInt8 := by rw [← same]; rfl
  rwa [List.getElem?_drop, Nat.add_zero] at first

theorem lt_of_find? {c : Char} {needle : List Char} {b : UInt8} {stop : Nat} (here : bytes[pos]? = some b)
    (other : b ≠ c.toUInt8) (found : find? bytes (c :: needle) pos = some stop) : pos < stop := by
  obtain ⟨inBounds, same⟩ := List.getElem?_eq_some_iff.mp here
  obtain ⟨count, atCount, rfl⟩ := Option.map_eq_some_iff.mp found
  have absent : ¬ Shows (b :: bytes.drop (pos + 1)) 0 (c :: needle) := fun shows =>
    other (Option.some.inj (getElem?_of_shows shows))
  rw [List.drop_eq_getElem_cons inBounds, same, indexOf?, if_neg absent] at atCount
  obtain ⟨count, _, rfl⟩ := Option.map_eq_some_iff.mp atCount
  omega

theorem lt_runEnd {member : UInt8 → Bool} {b : UInt8} (here : bytes[pos]? = some b) (inside : member b = true) :
    pos < runEnd bytes member pos := by
  obtain ⟨inBounds, same⟩ := List.getElem?_eq_some_iff.mp here
  rw [runEnd, List.drop_eq_getElem_cons inBounds, same, List.takeWhile_cons_of_pos inside, List.length_cons]
  omega

/-- Every turn of skipping but the last goes forward. -/
theorem lt_of_skipTurn (turns : skipTurn bytes pos = .again next) : pos < next ∧ pos < bytes.length := by
  unfold skipTurn at turns
  split at turns
  · next line =>
    cases turns
    exact ⟨lt_runEnd (getElem?_of_shows line) (by decide), lt_of_shows line (by simp)⟩
  split at turns
  · next block =>
    split at turns
    · next stop found =>
      cases turns
      have behind := le_of_find? found
      exact ⟨by omega, lt_of_shows block (by simp)⟩
    · cases turns
  split at turns
  · next b here =>
    split at turns
    · cases turns
      exact ⟨by omega, (List.getElem?_eq_some_iff.mp here).1⟩
    · cases turns
  · cases turns

/-- The first offset from `pos` on that is in neither space nor a comment. -/
def skip (bytes : List UInt8) (pos : Nat) : Nat :=
  match turns : skipTurn bytes pos with
  | .again next =>
    have := lt_of_skipTurn turns
    skip bytes next
  | .done stop => stop
termination_by bytes.length - pos

theorem skip_again (turns : skipTurn bytes pos = .again next) : skip bytes pos = skip bytes next := by
  rw [skip]
  split
  · next other =>
    cases turns.symm.trans other
    rfl
  · next other => cases turns.symm.trans other

theorem skip_done {stop : Nat} (turns : skipTurn bytes pos = .done stop) : skip bytes pos = stop := by
  rw [skip]
  split
  · next other => cases turns.symm.trans other
  · next other =>
    cases turns.symm.trans other
    rfl

theorem le_of_done {stop : Nat} (turns : skipTurn bytes pos = .done stop) : pos ≤ stop := by
  unfold skipTurn at turns
  split at turns
  · cases turns
  split at turns
  · next block =>
    split at turns
    · cases turns
    · cases turns
      exact (lt_of_shows block (by simp)).le
  split at turns
  · split at turns
    · cases turns
    · cases turns
      exact le_rfl
  · cases turns
    exact le_rfl

theorem le_skip (bytes : List UInt8) (pos : Nat) : pos ≤ skip bytes pos := by
  fun_induction skip bytes pos with
  | case1 pos next turns _ ih => exact (lt_of_skipTurn turns).1.le.trans ih
  | case2 pos stop turns => exact le_of_done turns

/-- The offset of the body, if an arrow function without parameters starts at `pos`. -/
def bodyAt? (bytes : List UInt8) (pos : Nat) : Option Nat :=
  let close := skip bytes (pos + 1)
  let arrow := skip bytes (close + 1)
  if Shows bytes close [')'] ∧ Shows bytes arrow ['=', '>'] then some (skip bytes (arrow + 2)) else none

theorem lt_of_bodyAt? {body : Nat} (found : bodyAt? bytes pos = some body) : pos < body := by
  unfold bodyAt? at found
  dsimp only at found
  split at found
  · cases found
    have toClose := le_skip bytes (pos + 1)
    have toArrow := le_skip bytes (skip bytes (pos + 1) + 1)
    have toBody := le_skip bytes (skip bytes (skip bytes (pos + 1) + 1) + 2)
    omega
  · cases found

/-- The end of the comment that starts at an offset. -/
def commentEnd? (bytes : List UInt8) (pos : Nat) : Option Nat :=
  if Shows bytes (pos + 1) ['/'] then some ((find? bytes ['\n'] pos).getD bytes.length)
  else (find? bytes ['*', '/'] (pos + 2)).map (· + 2)

end Bytes

/-- The state of scanning: how many bytes of the expression have been read, and what has been made of them. The body
of a function starts at a byte offset of the output here. -/
structure Scanner where
  pos : Nat
  made : Inliner

namespace Scanner

def start : Scanner :=
  ⟨0, .start⟩

/-- Closes the innermost bracket. The body that ends there is cut from the output. -/
def finishFrame (made : Inliner) : Except Halt Inliner :=
  match made.frames with
  | [] => .ok made
  | frame :: outer =>
    match frame.key, frame.bodyStart with
    | some key, some start => do
      let body ← cutFrom made.out.toList start
      let thunk : Thunk := ⟨Inliner.path outer key, String.ofList body⟩
      .ok { made with frames := outer, thunks := thunk :: made.thunks, expectKey := false }
    | _, _ => .ok { made with frames := outer, expectKey := false }

variable (src : List Char) (scanner : Scanner)

def copyChar : Except Halt Scanner := do
  match ← cutFrom src scanner.pos with
  | [] => .ok scanner
  | c :: _ => .ok ⟨scanner.pos + c.utf8Size, scanner.made.emit [c]⟩

def copyString (quote : UInt8) : Except Halt Scanner :=
  match closing? quote ((utf8 src).drop (scanner.pos + 1)) with
  | none => .error (.error (.unterminated .string scanner.pos))
  | some count => do
    let stop := scanner.pos + 1 + count
    let text ← cut src scanner.pos (stop + 1)
    let made := scanner.made.emit text
    if made.expectKey then
      let key ← cut src (scanner.pos + 1) stop
      .ok ⟨stop + 1, made.takeKey key⟩
    else .ok ⟨stop + 1, made⟩

def copyComment : Except Halt Scanner :=
  match commentEnd? (utf8 src) scanner.pos with
  | none => .error (.error (.unterminated .comment scanner.pos))
  | some stop => do
    let text ← cut src scanner.pos stop
    .ok ⟨stop, scanner.made.emit text⟩

/-- A key that starts with a digit is quoted. A key has a first character to look at. -/
def copyKey : Except Halt Scanner := do
  let stop := runEnd (utf8 src) (fun b => isKeyChar (Char.ofUInt8 b)) scanner.pos
  match ← cut src scanner.pos stop with
  | [] => .error .misread
  | c :: rest =>
    let written := if c.isDigit then '"' :: (c :: rest) ++ ['"'] else c :: rest
    .ok ⟨stop, (scanner.made.emit written).takeKey (c :: rest)⟩

def openWith (kind : Construct) (delimiter : Char) : Scanner :=
  ⟨scanner.pos + 1, (scanner.made.push kind none scanner.pos).emit [delimiter]⟩

def close (kind : Construct) : Except Halt Scanner := do
  let copied ← scanner.copyChar src
  let made := { copied.made with expectKey := false }
  if made.topKind = some kind then
    let made ← finishFrame made
    .ok ⟨copied.pos, made⟩
  else .ok ⟨copied.pos, made⟩

def enterArrow (body : Nat) : Except Halt Scanner :=
  let bodyStart := scanner.made.pendingKey.map fun _ => Text.bytes scanner.made.out.toList
  if Shows (utf8 src) body ['('] then .ok ⟨body + 1, scanner.made.push .functionBody bodyStart body⟩
  else if Shows (utf8 src) body ['['] then .ok ⟨body + 1, (scanner.made.push .array bodyStart body).emit ['[']⟩
  else if Shows (utf8 src) body ['{'] then .error (.error (.blockBody body))
  else .error (.error (.unsupportedArrow body))

/-- One turn of the scan, at a byte with the number of a given character. -/
def turnAt (c : Char) : Except Halt Scanner :=
  if c = '\'' ∨ c = '"' then scanner.copyString src c.toUInt8
  else if c = '\x60' then .error (.error (.templateLiteral scanner.pos))
  else if c = '/' ∧ (Shows (utf8 src) (scanner.pos + 1) ['/'] ∨ Shows (utf8 src) (scanner.pos + 1) ['*']) then
    scanner.copyComment src
  else if c = '{' then
    let opened := scanner.openWith .object '{'
    .ok { opened with made.expectKey := true }
  else if c = '[' then .ok (scanner.openWith .array '[')
  else if c = '}' then scanner.close src .object
  else if c = ']' then scanner.close src .array
  else if c = '(' then
    match bodyAt? (utf8 src) scanner.pos with
    | some body => scanner.enterArrow src body
    | none => scanner.copyChar src
  else if c = ')' ∧ scanner.made.topKind = some .functionBody then do
    let made ← finishFrame scanner.made
    .ok ⟨scanner.pos + 1, made⟩
  else if c = ',' then do
    let copied ← scanner.copyChar src
    .ok { copied with made.pendingKey := none, made.expectKey := copied.made.topKind = some .object }
  else if c = ';' ∧ scanner.made.frames.isEmpty then .ok { scanner with pos := scanner.pos + 1 }
  else if scanner.made.expectKey ∧ isKeyChar c then scanner.copyKey src
  else scanner.copyChar src

/-- The bytes of a character that is longer than one byte have numbers that no turn looks for. -/
def turn (b : UInt8) : Except Halt Scanner :=
  scanner.turnAt src (Char.ofUInt8 b)

section Progress

variable {src : List Char} {scanner next : Scanner} {b : UInt8}

theorem lt_of_copyChar (here : (utf8 src)[scanner.pos]? = some b) (copied : scanner.copyChar src = .ok next) :
    scanner.pos < next.pos := by
  obtain ⟨piece, taken, copied⟩ := ok_of_bind copied
  cases piece with
  | nil =>
    obtain ⟨before, after, _, start, stop⟩ := slice?_of_cut taken
    have inBounds := (List.getElem?_eq_some_iff.mp here).1
    rw [Text.length_utf8] at inBounds
    rw [List.append_nil] at stop
    omega
  | cons c piece =>
    cases copied
    exact Nat.lt_add_of_pos_right c.utf8Size_pos

theorem lt_of_copyString {quote : UInt8} (copied : scanner.copyString src quote = .ok next) :
    scanner.pos < next.pos := by
  unfold copyString at copied
  split at copied
  · cases copied
  · obtain ⟨text, _, copied⟩ := ok_of_bind copied
    dsimp only at copied
    split at copied
    · obtain ⟨key, _, copied⟩ := ok_of_bind copied
      cases copied
      dsimp only
      omega
    · cases copied
      dsimp only
      omega

theorem lt_of_commentEnd? {bytes : List UInt8} {pos stop : Nat} (here : bytes[pos]? = some '/'.toUInt8)
    (found : commentEnd? bytes pos = some stop) : pos < stop := by
  unfold commentEnd? at found
  split at found
  · cases found
    cases lineEnd : find? bytes ['\n'] pos with
    | none => exact (List.getElem?_eq_some_iff.mp here).1
    | some stop => exact lt_of_find? here (by decide) lineEnd
  · obtain ⟨start, inside, rfl⟩ := Option.map_eq_some_iff.mp found
    have behind := le_of_find? inside
    omega

theorem lt_of_copyComment (here : (utf8 src)[scanner.pos]? = some '/'.toUInt8)
    (copied : scanner.copyComment src = .ok next) :
    scanner.pos < next.pos := by
  unfold copyComment at copied
  split at copied
  · cases copied
  · next stop found =>
    obtain ⟨text, _, copied⟩ := ok_of_bind copied
    cases copied
    exact lt_of_commentEnd? here found

theorem lt_of_copyKey (here : (utf8 src)[scanner.pos]? = some b) (key : isKeyChar (Char.ofUInt8 b) = true)
    (copied : scanner.copyKey src = .ok next) : scanner.pos < next.pos := by
  obtain ⟨piece, _, copied⟩ := ok_of_bind copied
  cases piece with
  | nil => cases copied
  | cons c rest =>
    cases copied
    exact lt_runEnd here key

theorem lt_of_close {kind : Construct} (here : (utf8 src)[scanner.pos]? = some b)
    (closed : scanner.close src kind = .ok next) : scanner.pos < next.pos := by
  obtain ⟨copied, copies, closed⟩ := ok_of_bind closed
  have forward := lt_of_copyChar here copies
  dsimp only at closed
  split at closed
  · obtain ⟨made, _, closed⟩ := ok_of_bind closed
    cases closed
    exact forward
  · cases closed
    exact forward

theorem lt_of_enterArrow {body : Nat} (entered : scanner.enterArrow src body = .ok next) : body < next.pos := by
  unfold enterArrow at entered
  dsimp only at entered
  split at entered
  · cases entered
    exact Nat.lt_succ_self body
  split at entered
  · cases entered
    exact Nat.lt_succ_self body
  split at entered <;> cases entered

/-- Every turn goes forward, from whatever state. -/
theorem lt_of_turn (here : (utf8 src)[scanner.pos]? = some b) (turns : scanner.turn src b = .ok next) :
    scanner.pos < next.pos := by
  unfold turn turnAt at turns
  rcases ok_of_ite turns with ⟨_, turns⟩ | ⟨_, turns⟩
  · exact lt_of_copyString turns
  rcases ok_of_ite turns with ⟨_, turns⟩ | ⟨_, turns⟩
  · cases turns
  rcases ok_of_ite turns with ⟨comment, turns⟩ | ⟨_, turns⟩
  · have slash : b = '/'.toUInt8 := by rw [← comment.1, Text.toUInt8_ofUInt8]
    rw [slash] at here
    exact lt_of_copyComment here turns
  rcases ok_of_ite turns with ⟨_, turns⟩ | ⟨_, turns⟩
  · cases turns
    exact Nat.lt_succ_self _
  rcases ok_of_ite turns with ⟨_, turns⟩ | ⟨_, turns⟩
  · cases turns
    exact Nat.lt_succ_self _
  rcases ok_of_ite turns with ⟨_, turns⟩ | ⟨_, turns⟩
  · exact lt_of_close here turns
  rcases ok_of_ite turns with ⟨_, turns⟩ | ⟨_, turns⟩
  · exact lt_of_close here turns
  rcases ok_of_ite turns with ⟨_, turns⟩ | ⟨_, turns⟩
  · split at turns
    · next body found => exact (lt_of_bodyAt? found).trans (lt_of_enterArrow turns)
    · exact lt_of_copyChar here turns
  rcases ok_of_ite turns with ⟨_, turns⟩ | ⟨_, turns⟩
  · obtain ⟨made, _, turns⟩ := ok_of_bind turns
    cases turns
    exact Nat.lt_succ_self _
  rcases ok_of_ite turns with ⟨_, turns⟩ | ⟨_, turns⟩
  · obtain ⟨copied, copies, turns⟩ := ok_of_bind turns
    have forward := lt_of_copyChar here copies
    cases turns
    exact forward
  rcases ok_of_ite turns with ⟨_, turns⟩ | ⟨_, turns⟩
  · cases turns
    exact Nat.lt_succ_self _
  rcases ok_of_ite turns with ⟨key, turns⟩ | ⟨_, turns⟩
  · exact lt_of_copyKey here key.2 turns
  · exact lt_of_copyChar here turns

end Progress

/-- Scans the rest of the expression, turn by turn. -/
def run (src : List Char) (scanner : Scanner) : Except Halt Inlined :=
  match here : (utf8 src)[scanner.pos]? with
  | none => scanner.made.finish.mapError .error
  | some b =>
    match turns : scanner.turn src b with
    | .error halt => .error halt
    | .ok next =>
      have := lt_of_turn here turns
      have := (List.getElem?_eq_some_iff.mp here).1
      run src next
termination_by (utf8 src).length - scanner.pos

/-- The states in which the turns of a scan begin, and the last one. -/
inductive Visits (src : List Char) : Scanner → Prop
  | start : Visits src .start
  | turn {scanner next : Scanner} {b : UInt8} (visits : Visits src scanner) (here : (utf8 src)[scanner.pos]? = some b)
      (turns : scanner.turn src b = .ok next) : Visits src next

end Scanner

def cutTrivia (text : List Char) : Except Halt (List Char) :=
  cutFrom text (skip (utf8 text) 0)

def cutDirective (directive text : List Char) : Except Halt (List Char) :=
  match Text.after? directive text with
  | none => .ok text
  | some rest => cutTrivia ((Text.trimStart rest).dropWhile (· = ';'))

/-- The text of the value that the script exports, cut out by bytes. -/
def cutExpression (script : List Char) : Except Halt (List Char) := do
  let text ← cutTrivia script
  let text ← cutDirective "'use strict'".toList text
  let text ← cutDirective "\"use strict\"".toList text
  match Text.after? "module.exports".toList text with
  | some rest =>
    match Text.after? ['='] (Text.trimStart rest) with
    | some expression => .ok expression
    | none => .error (.error .missingExport)
  | none =>
    match Text.after? "export default".toList text with
    | some expression => .ok expression
    | none => .error (.error .missingExport)

/-- Inlines a script by reading its bytes. -/
def scan (script : String) : Except Halt Inlined := do
  let expression ← cutExpression script.toList
  Scanner.run expression .start

end ThemeSense.Script
