import ThemeSense.Json.Relaxed

namespace ThemeSense.Json

theorem tokens?_nil (recognise : Recogniser) : tokens? recognise [] = some [] := by
  simp [tokens?]

theorem tokens?_cons {recognise : Recogniser} {c : Char} {rest : List Char} {token : Option Token} {taken : Nat}
    (found : recognise c rest = some (token, taken)) :
    tokens? recognise (c :: rest) = (tokens? recognise (rest.drop taken)).map (token.toList ++ ·) := by
  rw [tokens?, found]

theorem tokens?_none {recognise : Recogniser} {c : Char} {rest : List Char} (found : recognise c rest = none) :
    tokens? recognise (c :: rest) = none := by
  rw [tokens?, found]

/-- The lexical unit with which a text that can be cut into tokens begins. -/
theorem recognise_of_tokens? {recognise : Recogniser} {c : Char} {rest : List Char} {tokens : List Token}
    (cut : tokens? recognise (c :: rest) = some tokens) :
    ∃ token taken others, recognise c rest = some (token, taken) ∧ tokens? recognise (rest.drop taken) = some others ∧
      tokens = token.toList ++ others := by
  cases found : recognise c rest with
  | none => simp [tokens?_none found] at cut
  | some unit =>
    obtain ⟨token, taken⟩ := unit
    rw [tokens?_cons found, Option.map_eq_some_iff] at cut
    obtain ⟨others, cut, rfl⟩ := cut
    exact ⟨token, taken, others, rfl, cut, rfl⟩

theorem recognise_of_isSpace {c : Char} (isSpace : Relaxed.isSpace c = true) (rest : List Char) :
    Relaxed.recognise c rest = some (none, 0) := by
  unfold Relaxed.recognise
  rw [if_pos isSpace]

/-- Whether a token is a value or a key by itself. -/
def Token.isLeaf : Token → Bool
  | .word _ | .name _ | .text _ | .scalar _ => true
  | _ => false

/-- The value that a token is by itself. -/
def Token.value? : Token → Option Json
  | .text value => some (.str value)
  | .scalar value => some value
  | .word chars => Relaxed.dialect.word? chars
  | _ => none

namespace Builder

/-- The state after reading on in the relaxed notation. -/
def read (b : Builder) (text : List Char) : Option Builder :=
  (tokens? Relaxed.recognise text).bind (·.foldlM (step Relaxed.dialect) b)

def result? (b : Builder) : Option Json :=
  match b.phase with
  | .done value => some value
  | _ => none

theorem parseRelaxed?_eq (text : String) : parseRelaxed? text = (start.read text.toList).bind result? := by
  unfold parseRelaxed? read
  cases tokens? Relaxed.recognise text.toList with
  | none => rfl
  | some tokens =>
    simp only [Option.bind_some, ofTokens?, bind]
    cases tokens.foldlM (step Relaxed.dialect) start with
    | none => rfl
    | some finished => rfl

variable (b : Builder) {c : Char} {rest : List Char} {taken : Nat}

@[simp] theorem read_nil : b.read [] = some b := by
  simp [read, tokens?_nil]

theorem read_space (found : Relaxed.recognise c rest = some (none, taken)) :
    b.read (c :: rest) = b.read (rest.drop taken) := by
  simp [read, tokens?_cons found]

theorem read_token {token : Token} (found : Relaxed.recognise c rest = some (some token, taken)) :
    b.read (c :: rest) = (step Relaxed.dialect b token).bind (·.read (rest.drop taken)) := by
  rw [read, tokens?_cons found]
  unfold read
  cases tokens? Relaxed.recognise (rest.drop taken) with
  | none => simp
  | some others => simp [List.foldlM_cons]

theorem read_none (found : Relaxed.recognise c rest = none) : b.read (c :: rest) = none := by
  simp [read, tokens?_none found]

theorem read_spaces {blanks : List Char} (isSpaces : blanks.all Relaxed.isSpace = true) (rest : List Char) :
    b.read (blanks ++ rest) = b.read rest := by
  induction blanks with
  | nil => rfl
  | cons c blanks ih =>
    rw [List.all_cons, Bool.and_eq_true] at isSpaces
    exact (b.read_space (recognise_of_isSpace isSpaces.1 (blanks ++ rest))).trans (ih isSpaces.2)

/-- A place where a value may start. -/
def TakesValue (b : Builder) : Prop :=
  b.phase = .value ∨ b.phase = .valueOrClose

/-- A place behind a value. -/
def Complete (b : Builder) : Prop :=
  b.phase = .separator ∨ ∃ value, b.phase = .done value

section Step

variable {b next : Builder}

/-- What a step can be, with what it needs of the place and makes of the stack. -/
inductive Steps (b next : Builder) (token : Token) : Prop
  | value (place : b.TakesValue) (taken : value Relaxed.dialect b.stack token = some next)
  | key (taken : keyToken Relaxed.dialect b.stack token = some next)
  | close (taken : close b.stack token = some next)
  | colon (place : b.phase = .colon) (isColon : token = .colon) (taken : next = ⟨b.stack, .value⟩)
  | comma (isComma : token = .comma) (taken : afterComma Relaxed.dialect b.stack = some next)

theorem step_cases {token : Token} (taken : step Relaxed.dialect b token = some next) : Steps b next token := by
  obtain ⟨stack, phase⟩ := b
  cases phase with
  | value => exact .value (.inl rfl) taken
  | valueOrClose =>
    cases token with
    | bracketClose => exact .close taken
    | _ => exact .value (.inr rfl) taken
  | key => exact .key taken
  | keyOrClose =>
    cases token with
    | braceClose => exact .close taken
    | _ => exact .key taken
  | colon =>
    cases token with
    | colon => exact .colon rfl rfl (Option.some.inj taken).symm
    | _ => cases taken
  | separator =>
    cases token with
    | comma => exact .comma rfl taken
    | _ => exact .close taken
  | done found => cases taken

theorem step_braceOpen (taken : step Relaxed.dialect b .braceOpen = some next) :
    next = ⟨.object [] :: b.stack, .keyOrClose⟩ := by
  cases step_cases taken with
  | value place taken => exact (Option.some.inj taken).symm
  | key taken | close taken => cases taken
  | colon place isColon taken => cases isColon
  | comma isComma taken => cases isComma

theorem step_bracketOpen (taken : step Relaxed.dialect b .bracketOpen = some next) :
    b.TakesValue ∧ next = ⟨.array [] :: b.stack, .valueOrClose⟩ := by
  cases step_cases taken with
  | value place taken => exact ⟨place, (Option.some.inj taken).symm⟩
  | key taken | close taken => cases taken
  | colon place isColon taken => cases isColon
  | comma isComma taken => cases isComma

theorem step_braceClose (taken : step Relaxed.dialect b .braceClose = some next) :
    ∃ members rest, b.stack = .object members :: rest ∧ put rest (.obj members.reverse) = some next := by
  cases step_cases taken with
  | value place taken | key taken => cases taken
  | close closes =>
    simp only [close] at closes
    split at closes
    · next members rest top => exact ⟨members, rest, top, closes⟩
    · cases closes
  | colon place isColon taken => cases isColon
  | comma isComma taken => cases isComma

theorem step_bracketClose (taken : step Relaxed.dialect b .bracketClose = some next) :
    ∃ items rest, b.stack = .array items :: rest ∧ put rest (.arr items.reverse) = some next := by
  cases step_cases taken with
  | value place taken | key taken => cases taken
  | close closes =>
    simp only [close] at closes
    split at closes
    · next items rest top => exact ⟨items, rest, top, closes⟩
    · cases closes
  | colon place isColon taken => cases isColon
  | comma isComma taken => cases isComma

theorem step_colon (taken : step Relaxed.dialect b .colon = some next) :
    b.phase = .colon ∧ next = ⟨b.stack, .value⟩ := by
  cases step_cases taken with
  | value place taken | key taken | close taken => cases taken
  | colon place isColon taken => exact ⟨place, taken⟩
  | comma isComma taken => cases isComma

theorem step_comma (taken : step Relaxed.dialect b .comma = some next) :
    (∃ items rest, b.stack = .array items :: rest ∧ next = ⟨b.stack, .valueOrClose⟩) ∨
      ∃ members rest, b.stack = .object members :: rest ∧ next = ⟨b.stack, .keyOrClose⟩ := by
  cases step_cases taken with
  | value place taken | key taken | close taken => cases taken
  | colon place isColon taken => cases isColon
  | comma isComma after =>
    unfold afterComma at after
    split at after
    · next items rest top => exact .inl ⟨items, rest, top, (Option.some.inj after).symm⟩
    · next members rest top => exact .inr ⟨members, rest, top, (Option.some.inj after).symm⟩
    · cases after

theorem step_scalar {found : Json} (taken : step Relaxed.dialect b (.scalar found) = some next) :
    b.TakesValue ∧ put b.stack found = some next := by
  cases step_cases taken with
  | value place taken => exact ⟨place, taken⟩
  | key taken | close taken => cases taken
  | colon place isColon taken => cases isColon
  | comma isComma taken => cases isComma

theorem key_cases {stack : List Open} {name : String} {bare : Bool}
    (taken : key Relaxed.dialect stack name bare = some next) :
    ∃ members rest, stack = .object members :: rest ∧ next = ⟨.member members name :: rest, .colon⟩ := by
  unfold key at taken
  split at taken
  · simp only [Relaxed.dialect, Bool.not_true, Bool.and_false, Bool.false_eq_true, if_false, Option.some.injEq] at taken
    exact ⟨_, _, rfl, taken.symm⟩
  · cases taken

/-- A string or a name is a value or a key. -/
theorem step_text {token : Token} (isText : ∃ text, token = .text text ∨ token = .word text ∨ token = .name text)
    (taken : step Relaxed.dialect b token = some next) :
    (∃ found, put b.stack found = some next) ∨
      ∃ members rest name, b.stack = .object members :: rest ∧ next = ⟨.member members name :: rest, .colon⟩ := by
  cases step_cases taken with
  | value place asValue =>
    left
    obtain ⟨text, rfl | rfl | rfl⟩ := isText
    · exact ⟨_, asValue⟩
    · obtain ⟨found, _, asValue⟩ := Option.bind_eq_some_iff.mp asValue
      exact ⟨found, asValue⟩
    · cases asValue
  | key asKey =>
    right
    obtain ⟨text, rfl | rfl | rfl⟩ := isText <;>
    · obtain ⟨members, rest, same, key⟩ := key_cases asKey
      exact ⟨members, rest, text, same, key⟩
  | close taken => obtain ⟨text, rfl | rfl | rfl⟩ := isText <;> cases taken
  | colon place isColon taken => obtain ⟨text, rfl | rfl | rfl⟩ := isText <;> cases isColon
  | comma isComma taken => obtain ⟨text, rfl | rfl | rfl⟩ := isText <;> cases isComma

theorem put_complete {stack : List Open} {found : Json} (taken : put stack found = some next) : next.Complete := by
  unfold put at taken
  split at taken <;> cases taken
  · exact .inr ⟨_, rfl⟩
  · exact .inl rfl
  · exact .inl rfl

/-- Behind a value neither a string nor a name nor a number may come. -/
theorem Complete.step_leaf {token : Token} (complete : b.Complete) (isLeaf : token.isLeaf = true) :
    step Relaxed.dialect b token = none := by
  obtain ⟨stack, phase⟩ := b
  cases token with
  | word | name | text | scalar => rcases complete with rfl | ⟨value, rfl⟩ <;> rfl
  | _ => cases isLeaf

theorem TakesValue.step_leaf {token : Token} (place : b.TakesValue) (isLeaf : token.isLeaf = true) :
    step Relaxed.dialect b token = token.value?.bind (put b.stack) := by
  obtain ⟨stack, phase⟩ := b
  cases token with
  | word | name | text | scalar => rcases place with rfl | rfl <;> rfl
  | _ => cases isLeaf

end Step

end Builder

end ThemeSense.Json
