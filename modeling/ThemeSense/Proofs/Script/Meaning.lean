import ThemeSense.Proofs.Script.Source
import ThemeSense.Proofs.Script.Words

namespace ThemeSense.Script

open Json Json.Relaxed

/-- Whether the relaxed notation takes all of a comment for a comment. A line comment ends at other line
ends too, and only space may stand between them and the line feed. -/
def Trivium.isClear : Trivium → Bool
  | .line content _ => (content.dropWhile (!isLineEnd ·)).all isSpace
  | _ => true

def Trivia.isClear (trivia : Trivia) : Bool :=
  trivia.all Trivium.isClear

def PropertyHead.isClear (head : PropertyHead) : Bool :=
  head.beforeColon.isClear && head.afterColon.isClear

mutual

/-- Whether all comments that inlining keeps are clear. -/
def Value.isClear : Value → Bool
  | .scalar _ => true
  | .array items => items.isClear
  | .object members => members.isClear
  | .function _ before result after => before.isClear && result.isClear && after.isClear
  | .listFunction _ items => items.isClear

def Items.isClear : Items → Bool
  | .done space => space.isClear
  | .last before value after => before.isClear && value.isClear && after.isClear
  | .next before value after rest => before.isClear && value.isClear && after.isClear && rest.isClear

def Members.isClear : Members → Bool
  | .done space => space.isClear
  | .last before head value after => before.isClear && head.isClear && value.isClear && after.isClear
  | .next before head value after rest =>
    before.isClear && head.isClear && value.isClear && after.isClear && rest.isClear

end

def Quoted.value? (string : Quoted) : Option String :=
  (string? string.quote none (string.content ++ [string.quote])).map fun unit => String.ofList unit.1

/-- The name that a key stands for. Only in a string it may differ from the key's text. -/
def Key.value? : Key → Option String
  | .quoted string => string.value?
  | .plain name _ _ => some (String.ofList name)

mutual

/-- The document that a value stands for, a function for what it returns. -/
def Value.json? : Value → Option Json
  | .scalar scalar => parseRelaxed? (String.ofList scalar.text)
  | .array items => items.json?.map .arr
  | .object members => members.json?.map .obj
  | .function _ _ result _ => result.json?
  | .listFunction _ items => items.json?.map .arr

def Items.json? : Items → Option (List Json)
  | .done _ => some []
  | .last _ value _ => value.json?.map ([·])
  | .next _ value _ rest => value.json?.bind fun first => rest.json?.map (first :: ·)

def Members.json? : Members → Option (List (String × Json))
  | .done _ => some []
  | .last _ head value _ => head.key.value?.bind fun name => value.json?.map fun only => [(name, only)]
  | .next _ head value _ rest =>
    head.key.value?.bind fun name => value.json?.bind fun first => rest.json?.map ((name, first) :: ·)

end

/-- What the relaxed notation finds behind a line comment. -/
theorem drop_line (content rest : List Char) :
    (content ++ '\n' :: rest).drop ((content ++ '\n' :: rest).takeWhile (!isLineEnd ·)).length =
      content.dropWhile (!isLineEnd ·) ++ '\n' :: rest := by
  induction content with
  | nil => rfl
  | cons c content ih =>
    cases ended : isLineEnd c with
    | true => simp [ended]
    | false => simpa [ended] using ih

theorem Trivium.read (trivium : Trivium) (clear : trivium.isClear = true) (b : Builder) (rest : List Char) :
    b.read (trivium.text ++ rest) = b.read rest := by
  cases trivium with
  | blank c isBlank =>
    have space : isSpace c = true := by
      rcases isAsciiBlank_iff.mp isBlank with rfl | rfl | rfl | rfl | rfl <;> rfl
    exact b.read_space (recognise_of_isSpace space rest)
  | line content oneLine =>
    have found : Relaxed.recognise '/' ('/' :: (content ++ '\n' :: rest)) =
      some (none, 1 + ((content ++ '\n' :: rest).takeWhile (!isLineEnd ·)).length) := rfl
    calc b.read ('/' :: '/' :: (content ++ ['\n']) ++ rest)
        = b.read ('/' :: '/' :: (content ++ '\n' :: rest)) := by simp
      _ = b.read (content.dropWhile (!isLineEnd ·) ++ '\n' :: rest) := by
        rw [b.read_space found, Nat.add_comm, List.drop_succ_cons, drop_line]
      _ = b.read ('\n' :: rest) := b.read_spaces clear _
      _ = b.read rest := b.read_space (recognise_of_isSpace rfl rest)
  | block content unended =>
    have ended := commentLength?_block unended rest
    rw [commentLength?_eq] at ended
    have found : Relaxed.recognise '/' ('*' :: (content ++ '*' :: '/' :: rest)) =
        some (none, content.length + 2 + 1) := congrArg (Option.map fun taken => (none, taken + 1)) ended
    calc b.read ('/' :: '*' :: (content ++ ['*', '/']) ++ rest)
        = b.read ('/' :: '*' :: (content ++ '*' :: '/' :: rest)) := by simp
      _ = b.read rest := by
        rw [b.read_space found, List.drop_succ_cons]
        congr 1
        simp

theorem Trivia.read (trivia : Trivia) (clear : trivia.isClear = true) (b : Builder) (rest : List Char) :
    b.read (trivia.text ++ rest) = b.read rest := by
  induction trivia with
  | nil => rfl
  | cons trivium trivia ih =>
    rw [Trivia.isClear, List.all_cons, Bool.and_eq_true] at clear
    rw [Trivia.text_cons, List.append_assoc, trivium.read clear.1, ih clear.2]

theorem Trivium.delimits (trivium : Trivium) (rest : List Char) : Delimits (trivium.text ++ rest) := by
  cases trivium with
  | blank c isBlank => rcases isAsciiBlank_iff.mp isBlank with rfl | rfl | rfl | rfl | rfl <;> rfl
  | line content oneLine => rfl
  | block content unended => rfl

theorem Trivia.delimits (trivia : Trivia) {rest : List Char} (delimits : Delimits rest) :
    Delimits (trivia.text ++ rest) := by
  cases trivia with
  | nil => exact delimits
  | cons trivium trivia =>
    rw [Trivia.text_cons, List.append_assoc]
    exact trivium.delimits _

theorem Scalar.read (scalar : Scalar) {b : Builder} {rest : List Char} (place : b.TakesValue)
    (delimits : Delimits rest) :
    b.read (scalar.text ++ rest) = (parseRelaxed? (String.ofList scalar.text)).bind fun json =>
      (Builder.put b.stack json).bind (·.read rest) := by
  cases scalar with
  | quoted string =>
    have read := string.leaf.read place delimits
    rwa [← List.cons_append] at read
  | plain word nonempty isPlain =>
    cases word with
    | nil => exact absurd rfl nonempty
    | cons c word =>
      have read := (plain_leaf (List.all_eq_true.mp isPlain)).read place delimits
      rwa [← List.cons_append] at read

/-- A string without escapes is read as it stands. -/
theorem string?_plain {quote : Char} (isQuote : quote = '\'' ∨ quote = '"') {content : List Char}
    (plain : ∀ c ∈ content, c ≠ '\\' ∧ c ≠ quote ∧ isLineEnd c = false) (rest : List Char) :
    string? quote none (content ++ quote :: rest) = some (content, content.length + 1) := by
  induction content with
  | nil => rcases isQuote with rfl | rfl <;> rfl
  | cons c content ih =>
    rw [List.forall_mem_cons] at plain
    obtain ⟨⟨noEscape, noQuote, inLine⟩, later⟩ := plain
    rw [List.cons_append, string?_char noEscape, if_neg (by simp [inLine, noEscape]), if_neg noQuote, ih later]
    rfl

theorem string?_of_key {name : List Char} (isName : ∀ c ∈ name, isKeyChar c = true) (rest : List Char) :
    string? '"' none (name ++ '"' :: rest) = some (name, name.length + 1) := by
  refine string?_plain (.inr rfl) (fun c member => ?_) rest
  have key := isName c member
  refine ⟨isKeyChar_ne key rfl, isKeyChar_ne key rfl, ?_⟩
  rw [← Bool.not_eq_true]
  intro ended
  have space : isSpace c = true := by simp [isSpace, ended]
  simp [isKeyChar_of_isSpace space] at key

theorem read_key {token : Token} {name : String}
    (isKey : token = .text name ∨ token = .word name) (members : List (String × Json)) (outer : List Open) {c : Char}
    {word : List Char} (rest : List Char)
    (found : Relaxed.recognise c (word ++ rest) = some (some token, word.length)) :
    Builder.read ⟨.object members :: outer, .keyOrClose⟩ (c :: (word ++ rest)) =
      Builder.read ⟨.member members name :: outer, .colon⟩ rest := by
  rw [Builder.read_token _ found, List.drop_left]
  rcases isKey with rfl | rfl <;> rfl

theorem Key.read (key : Key) (members : List (String × Json)) (outer : List Open) {rest : List Char}
    (delimits : Delimits rest) :
    Builder.read ⟨.object members :: outer, .keyOrClose⟩ (key.piece.inlined ++ rest) =
      key.value?.bind fun name => Builder.read ⟨.member members name :: outer, .colon⟩ rest := by
  cases key with
  | quoted string =>
    have text : (Key.quoted string).piece.inlined ++ rest =
      string.quote :: (string.content ++ [string.quote] ++ rest) := rfl
    have found := string.recognise_append rest
    rw [text, Key.value?, Quoted.value?]
    cases read : string? string.quote none (string.content ++ [string.quote]) with
    | none =>
      rw [read] at found
      rw [Builder.read_none _ found]
      rfl
    | some unit =>
      rw [read] at found
      exact read_key (.inl rfl) members outer rest found
  | plain name nonempty isName =>
    rw [List.all_eq_true] at isName
    obtain ⟨c, word, rfl⟩ := List.exists_cons_of_ne_nil nonempty
    cases digit : c.isDigit with
    | true =>
      have text : (Key.plain (c :: word) nonempty (List.all_eq_true.mpr isName)).piece.inlined ++ rest =
          '"' :: (c :: word ++ ['"'] ++ rest) := by
        simp [Key.piece, Piece.inlined, digit]
      have found : Relaxed.recognise '"' (c :: word ++ ['"'] ++ rest) =
          some (some (.text (String.ofList (c :: word))), (c :: word ++ ['"']).length) := by
        rw [recognise_quote (.inr rfl), List.append_assoc, List.singleton_append, string?_of_key isName]
        simp
      rw [text]
      exact read_key (.inl rfl) members outer rest found
    | false =>
      have text : (Key.plain (c :: word) nonempty (List.all_eq_true.mpr isName)).piece.inlined ++ rest =
          c :: (word ++ rest) := by
        simp [Key.piece, Piece.inlined, digit]
      rw [text]
      exact read_key (.inr rfl) members outer rest (recognise_bare isName digit delimits.noName)

theorem PropertyHead.read (head : PropertyHead) (clear : head.isClear = true) (members : List (String × Json))
    (outer : List Open) (rest : List Char) :
    Builder.read ⟨.object members :: outer, .keyOrClose⟩ (Piece.allInlined head.pieces ++ rest) =
      head.key.value?.bind fun name => Builder.read ⟨.member members name :: outer, .value⟩ rest := by
  rw [PropertyHead.isClear, Bool.and_eq_true] at clear
  have colon : Relaxed.recognise ':' (head.afterColon.text ++ rest) = some (some .colon, 0) := rfl
  have delimits : Delimits (':' :: (head.afterColon.text ++ rest)) := rfl
  have text : Piece.allInlined head.pieces ++ rest =
      head.key.piece.inlined ++ (head.beforeColon.text ++ ':' :: (head.afterColon.text ++ rest)) := by
    simp [PropertyHead.pieces, Piece.inlined]
  rw [text, head.key.read members outer (head.beforeColon.delimits delimits)]
  congr 1
  funext name
  rw [head.beforeColon.read clear.1, Builder.read_token _ colon, List.drop_zero]
  exact head.afterColon.read clear.2 _ rest

/-- Wherever a value may stand, the document that the value stands for is read. -/
def Value.Reads (value : Value) : Prop :=
  ∀ (b : Builder) (rest : List Char), b.TakesValue → Delimits rest →
    b.read (Piece.allInlined value.pieces ++ rest) =
      value.json?.bind fun json => (Builder.put b.stack json).bind (·.read rest)

namespace Value.Reads

variable {value : Value} (reads : value.Reads) {before after : Trivia} {rest : List Char}

include reads

theorem item (clear : before.isClear = true ∧ after.isClear = true) (delimits : Delimits rest) (items : List Json)
    (outer : List Open) :
    Builder.read ⟨.array items :: outer, .valueOrClose⟩
        (before.text ++ (Piece.allInlined value.pieces ++ (after.text ++ rest))) =
      value.json?.bind fun json => Builder.read ⟨.array (json :: items) :: outer, .separator⟩ rest := by
  rw [before.read clear.1, reads _ _ (.inr rfl) (after.delimits delimits)]
  congr 1
  funext json
  exact after.read clear.2 _ rest

theorem property {head : PropertyHead} (clear : before.isClear = true ∧ after.isClear = true)
    (headClear : head.isClear = true) (delimits : Delimits rest) (members : List (String × Json)) (outer : List Open) :
    Builder.read ⟨.object members :: outer, .keyOrClose⟩
        (before.text ++ (Piece.allInlined head.pieces ++ (Piece.allInlined value.pieces ++ (after.text ++ rest)))) =
      head.key.value?.bind fun name => value.json?.bind fun json =>
        Builder.read ⟨.object ((name, json) :: members) :: outer, .separator⟩ rest := by
  rw [before.read clear.1, head.read headClear]
  congr 1
  funext name
  rw [reads _ _ (.inl rfl) (after.delimits delimits)]
  congr 1
  funext json
  exact after.read clear.2 _ rest

end Value.Reads

section Brackets

variable (outer : List Open) (rest : List Char)

theorem read_bracketClose {phase : Phase} (place : phase = .valueOrClose ∨ phase = .separator) (items : List Json) :
    Builder.read ⟨.array items :: outer, phase⟩ (']' :: rest) =
      (Builder.put outer (.arr items.reverse)).bind (·.read rest) := by
  have found : Relaxed.recognise ']' rest = some (some .bracketClose, 0) := rfl
  rw [Builder.read_token _ found]
  rcases place with rfl | rfl <;> rfl

theorem read_braceClose {phase : Phase} (place : phase = .keyOrClose ∨ phase = .separator)
    (members : List (String × Json)) :
    Builder.read ⟨.object members :: outer, phase⟩ ('}' :: rest) =
      (Builder.put outer (.obj members.reverse)).bind (·.read rest) := by
  have found : Relaxed.recognise '}' rest = some (some .braceClose, 0) := rfl
  rw [Builder.read_token _ found]
  rcases place with rfl | rfl <;> rfl

theorem read_comma_array (items : List Json) :
    Builder.read ⟨.array items :: outer, .separator⟩ (',' :: rest) =
      Builder.read ⟨.array items :: outer, .valueOrClose⟩ rest := by
  have found : Relaxed.recognise ',' rest = some (some .comma, 0) := rfl
  exact Builder.read_token _ found

theorem read_comma_object (members : List (String × Json)) :
    Builder.read ⟨.object members :: outer, .separator⟩ (',' :: rest) =
      Builder.read ⟨.object members :: outer, .keyOrClose⟩ rest := by
  have found : Relaxed.recognise ',' rest = some (some .comma, 0) := rfl
  exact Builder.read_token _ found

theorem read_bracketOpen {b : Builder} (place : b.TakesValue) :
    b.read ('[' :: rest) = Builder.read ⟨.array [] :: b.stack, .valueOrClose⟩ rest := by
  have found : Relaxed.recognise '[' rest = some (some .bracketOpen, 0) := rfl
  obtain ⟨stack, phase⟩ := b
  rw [Builder.read_token _ found]
  rcases place with rfl | rfl <;> rfl

theorem read_braceOpen {b : Builder} (place : b.TakesValue) :
    b.read ('{' :: rest) = Builder.read ⟨.object [] :: b.stack, .keyOrClose⟩ rest := by
  have found : Relaxed.recognise '{' rest = some (some .braceOpen, 0) := rfl
  obtain ⟨stack, phase⟩ := b
  rw [Builder.read_token _ found]
  rcases place with rfl | rfl <;> rfl

end Brackets

mutual

/-- The induction over values. What a bracket encloses is read in front of all that the bracket's
neighbours left on the stack. -/
theorem Value.reads (value : Value) (clear : value.isClear = true) : value.Reads := by
  intro b rest place delimits
  match value with
  | .scalar scalar => simpa [Value.pieces, Piece.inlined, Value.json?] using scalar.read place delimits
  | .array items =>
    have inside := items.read clear [] b.stack rest
    simpa [Value.pieces, Piece.inlined, Value.json?, read_bracketOpen _ place, Option.bind_map, Function.comp_def]
      using inside
  | .object members =>
    have inside := members.read clear [] b.stack rest
    simpa [Value.pieces, Piece.inlined, Value.json?, read_braceOpen _ place, Option.bind_map, Function.comp_def]
      using inside
  | .function head before result after =>
    simp only [Value.isClear, Bool.and_eq_true] at clear
    have inside := result.reads clear.1.2 b (after.text ++ rest) place (after.delimits delimits)
    rw [← before.read clear.1.1 b] at inside
    simpa [Value.pieces, Piece.inlined, Value.json?, after.read clear.2] using inside
  | .listFunction head items =>
    have inside := items.read clear [] b.stack rest
    simpa [Value.pieces, Piece.inlined, Value.json?, read_bracketOpen _ place, Option.bind_map, Function.comp_def]
      using inside

theorem Items.read (items : Items) (clear : items.isClear = true) (done : List Json) (outer : List Open)
    (rest : List Char) :
    Builder.read ⟨.array done :: outer, .valueOrClose⟩ (Piece.allInlined items.pieces ++ ']' :: rest) =
      items.json?.bind fun others => (Builder.put outer (.arr (done.reverse ++ others))).bind (·.read rest) := by
  match items with
  | .done space =>
    have inside := space.read clear ⟨.array done :: outer, .valueOrClose⟩ (']' :: rest)
    rw [read_bracketClose _ _ (.inl rfl)] at inside
    simpa [Items.pieces, Piece.inlined, Items.json?] using inside
  | .last before value after =>
    simp only [Items.isClear, Bool.and_eq_true] at clear
    have delimits : Delimits (']' :: rest) := rfl
    have inside := (value.reads clear.1.2).item ⟨clear.1.1, clear.2⟩ delimits done outer
    simpa [Items.pieces, Piece.inlined, Items.json?, read_bracketClose, Option.bind_map, Function.comp_def] using inside
  | .next before value after others =>
    simp only [Items.isClear, Bool.and_eq_true] at clear
    have delimits : Delimits (',' :: (Piece.allInlined others.pieces ++ ']' :: rest)) := rfl
    have inside := (value.reads clear.1.1.2).item ⟨clear.1.1.1, clear.1.2⟩ delimits done outer
    simpa [Items.pieces, Piece.inlined, Items.json?, read_comma_array, others.read clear.2, Option.bind_map,
      Function.comp_def, Option.bind_assoc] using inside

theorem Members.read (members : Members) (clear : members.isClear = true) (done : List (String × Json))
    (outer : List Open) (rest : List Char) :
    Builder.read ⟨.object done :: outer, .keyOrClose⟩ (Piece.allInlined members.pieces ++ '}' :: rest) =
      members.json?.bind fun others => (Builder.put outer (.obj (done.reverse ++ others))).bind (·.read rest) := by
  match members with
  | .done space =>
    have inside := space.read clear ⟨.object done :: outer, .keyOrClose⟩ ('}' :: rest)
    rw [read_braceClose _ _ (.inl rfl)] at inside
    simpa [Members.pieces, Piece.inlined, Members.json?] using inside
  | .last before head value after =>
    simp only [Members.isClear, Bool.and_eq_true] at clear
    have delimits : Delimits ('}' :: rest) := rfl
    have inside := (value.reads clear.1.2).property ⟨clear.1.1.1, clear.2⟩ clear.1.1.2 delimits done outer
    simpa [Members.pieces, Piece.inlined, Members.json?, read_braceClose, Option.bind_map, Function.comp_def,
      Option.bind_assoc] using inside
  | .next before head value after others =>
    simp only [Members.isClear, Bool.and_eq_true] at clear
    have delimits : Delimits (',' :: (Piece.allInlined others.pieces ++ '}' :: rest)) := rfl
    have inside := (value.reads clear.1.1.2).property ⟨clear.1.1.1.1, clear.1.2⟩ clear.1.1.1.2 delimits done outer
    simpa [Members.pieces, Piece.inlined, Members.json?, read_comma_object, others.read clear.2, Option.bind_map,
      Function.comp_def, Option.bind_assoc] using inside

end

/-- Between space and comments a value is a document of its own. -/
theorem Value.parse (value : Value) (clear : value.isClear = true) {before after : Trivia}
    (beforeClear : before.isClear = true) (afterClear : after.isClear = true) :
    parseRelaxed? (String.ofList (before.text ++ Piece.allInlined value.pieces ++ after.text)) = value.json? := by
  have trail (b : Builder) : b.read after.text = some b := by
    simpa using after.read afterClear b []
  have delimits : Delimits after.text := by simpa using after.delimits delimits_nil
  have read := value.reads clear .start after.text takesValue_start delimits
  simp only [trail] at read
  rw [Builder.parseRelaxed?_eq, String.toList_ofList, List.append_assoc, before.read beforeClear, read]
  cases value.json? with
  | none => rfl
  | some json => rfl

def Source.isClear (source : Source) : Bool :=
  source.lead.isClear && source.value.isClear && source.after.isClear && source.ending.all Trivia.isClear

/-- What a script is inlined to is read as the document that its value stands for. -/
theorem Source.parse (source : Source) (clear : source.isClear = true) :
    parseRelaxed? (String.ofList (Piece.allInlined source.pieces)) = source.value.json? := by
  simp only [Source.isClear, Bool.and_eq_true] at clear
  obtain ⟨⟨⟨lead, value⟩, after⟩, ending⟩ := clear
  have afterClear : Trivia.isClear (source.after ++ source.ending.getD []) = true := by
    rw [Trivia.isClear, List.all_append, Bool.and_eq_true]
    refine ⟨after, ?_⟩
    cases found : source.ending with
    | none => rfl
    | some trivia =>
      rw [found] at ending
      exact ending
  rw [← source.value.parse value lead afterClear]
  congr 2
  cases found : source.ending with
  | none => simp [Source.pieces, found, Piece.inlined]
  | some trivia => simp [Source.pieces, found, Piece.inlined, Trivia.text]

end ThemeSense.Script
