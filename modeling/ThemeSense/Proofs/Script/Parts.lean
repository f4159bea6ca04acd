import ThemeSense.Proofs.Script.Lexing
import ThemeSense.Proofs.Text.Position
import ThemeSense.Proofs.Text.Runs

namespace ThemeSense.Script

/-- A comment as far as it is copied: a line comment up to the end of its line, a block comment up to the first
`*/` after its opening. -/
inductive Comment where
  | line (content : List Char) (oneLine : '\n' ∉ content)
  | block (content : List Char) (unended : ¬ ['*', '/'] <:+: content)

def Comment.text : Comment → List Char
  | .line content _ => '/' :: '/' :: content
  | .block content _ => '/' :: '*' :: (content ++ ['*', '/'])

/-- A part of an expression, which may be any text. A word is a run of key characters, and what belongs to no
other part is a part by itself, character for character. -/
inductive Part where
  | string (literal : Quoted)
  | comment (remark : Comment)
  /-- The header of a function, with the parenthesis or the bracket that opens its body. -/
  | header (head : ArrowHead) (opening : Char) (isOpening : opening = '(' ∨ opening = '[')
  | word (name : List Char) (nonempty : name ≠ []) (isWord : name.all isKeyChar = true)
  | char (c : Char)

namespace Part

def text : Part → List Char
  | .string literal => literal.text
  | .comment remark => remark.text
  | .header head opening _ => head.text ++ [opening]
  | .word name _ _ => name
  | .char c => [c]

def allText (parts : List Part) : List Char :=
  parts.flatMap text

theorem allText_cons (part : Part) (parts : List Part) : allText (part :: parts) = part.text ++ allText parts :=
  List.flatMap_cons

theorem allText_append (first second : List Part) : allText (first ++ second) = allText first ++ allText second :=
  List.flatMap_append

/-- The part is all of what begins where it begins, with `rest` behind it: a line comment and a word do not go
on, and a character by itself begins no string, no comment, no header and no word. -/
def IsWhole (rest : List Char) : Part → Prop
  | .comment (.line _ _) => Text.Ends (· ≠ '\n') rest
  | .word _ _ _ => Text.Ends isKeyChar rest
  | .char c => isKeyChar c = false ∧ c ≠ '\'' ∧ c ≠ '"' ∧ c ≠ '\x60' ∧
      (c = '/' → ∀ d ∈ rest.head?, d ≠ '/' ∧ d ≠ '*') ∧
      (c = '(' → ∀ (head : ArrowHead) (tail : List Char), rest ≠ head.rest ++ tail)
  | _ => True

/-- The parts are those into which a text falls up to `rest`. -/
def IsCutBefore (rest : List Char) : List Part → Prop
  | [] => True
  | part :: parts => part.IsWhole (allText parts ++ rest) ∧ IsCutBefore rest parts

/-- The characters that are lexemes of their own kind. -/
def delimiters : List Char :=
  ['{', '}', '[', ']', ')', ',', ';']

/-- The lexemes that are parts of each kind. -/
inductive HasKind : Part → LexemeKind → Prop
  | string (literal : Quoted) : HasKind (.string literal) .quoted
  | comment (remark : Comment) : HasKind (.comment remark) .comment
  | arrowParen (head : ArrowHead) (body : Nat) : HasKind (.header head '(' (.inl rfl)) (.arrowParen body)
  | arrowBracket (head : ArrowHead) (body : Nat) : HasKind (.header head '[' (.inr rfl)) (.arrowBracket body)
  | word (name : List Char) (nonempty : name ≠ []) (isWord : name.all isKeyChar = true) :
      HasKind (.word name nonempty isWord) .word
  | braceOpen : HasKind (.char '{') .braceOpen
  | braceClose : HasKind (.char '}') .braceClose
  | bracketOpen : HasKind (.char '[') .bracketOpen
  | bracketClose : HasKind (.char ']') .bracketClose
  | parenClose : HasKind (.char ')') .parenClose
  | comma : HasKind (.char ',') .comma
  | semicolon : HasKind (.char ';') .semicolon
  | other {c : Char} (plain : c ∉ delimiters) : HasKind (.char c) .other

end Part

/-- A string that is found to end is closed by its quote, with nothing in it that would have ended it before. -/
theorem content_of_quotedLength? {quote : Char} {rest : List Char} {length : Nat}
    (found : quotedLength? quote rest = some length) :
    ∃ content, fitsQuotes quote content = true ∧ rest.take length = content ++ [quote] := by
  fun_induction quotedLength? quote rest generalizing length with
  | case1 | case3 => cases found
  | case2 c rest ih =>
    obtain ⟨shorter, inside, rfl⟩ := Option.map_eq_some_iff.mp found
    obtain ⟨content, fits, taken⟩ := ih inside
    exact ⟨'\\' :: c :: content, by simpa [fitsQuotes] using fits, by simp [taken]⟩
  | case4 rest _ _ =>
    cases found
    exact ⟨[], rfl, by simp⟩
  | case5 c rest noEscape noLineEnd noQuote ih =>
    obtain ⟨shorter, inside, rfl⟩ := Option.map_eq_some_iff.mp found
    obtain ⟨content, fits, taken⟩ := ih inside
    have plain : c ≠ '\\' := by
      rintro rfl
      cases rest with
      | nil => cases inside
      | cons d rest => exact noEscape d rest rfl rfl
    refine ⟨c :: content, ?_, by simp [taken]⟩
    rw [fitsQuotes]
    · simp [noLineEnd, noQuote, fits]
    · exact fun same => absurd same plain
    · exact fun _ _ same => absurd same plain

theorem content_of_commentLength? {rest : List Char} {length : Nat} (found : commentLength? rest = some length) :
    ∃ content, ¬ ['*', '/'] <:+: content ∧ rest.take length = content ++ ['*', '/'] := by
  fun_induction commentLength? rest generalizing length with
  | case1 rest =>
    cases found
    exact ⟨[], by simp, by simp⟩
  | case2 c rest unended ih =>
    obtain ⟨shorter, inside, rfl⟩ := Option.map_eq_some_iff.mp found
    obtain ⟨content, goesOn, taken⟩ := ih inside
    refine ⟨c :: content, unended_cons goesOn ?_, by simp [taken]⟩
    rintro more rfl rfl
    cases rest with
    | nil => simp at taken
    | cons d rest =>
      cases shorter with
      | zero => simp at taken
      | succ shorter =>
        simp only [List.take_succ_cons, List.cons_append, List.cons.injEq] at taken
        exact unended rest rfl (by rw [taken.1])
  | case3 => cases found

/-- What has been passed over up to `rest`, in code or from inside a comment. -/
def TriviaState.Passes (cs rest : List Char) : TriviaState → Prop
  | .code => ∃ trivia : Trivia, cs = trivia.text ++ rest
  | .lineComment => ∃ content, ∃ trivia : Trivia, '\n' ∉ content ∧ cs = content ++ '\n' :: (trivia.text ++ rest)
  | .blockComment => ∃ content, ∃ trivia : Trivia, ¬ ['*', '/'] <:+: content ∧
      cs = content ++ '*' :: '/' :: (trivia.text ++ rest)

/-- Where something is left, nothing but space and whole comments has been dropped. -/
theorem passes_dropTrivia {state : TriviaState} {cs : List Char} (left : dropTrivia state cs ≠ []) :
    state.Passes cs (dropTrivia state cs) := by
  fun_induction dropTrivia state cs with
  | case1 => exact absurd rfl left
  | case2 rest ih =>
    obtain ⟨content, trivia, oneLine, same⟩ := ih left
    exact ⟨.line content oneLine :: trivia, by simpa [Trivia.text_cons, Trivium.text] using same⟩
  | case3 rest ih =>
    obtain ⟨content, trivia, unended, same⟩ := ih left
    exact ⟨.block content unended :: trivia, by simpa [Trivia.text_cons, Trivium.text] using same⟩
  | case4 c rest _ _ blank ih =>
    obtain ⟨trivia, same⟩ := ih left
    exact ⟨.blank c blank :: trivia, by rw [Trivia.text_cons, List.append_assoc, ← same]; rfl⟩
  | case5 c rest => exact ⟨[], rfl⟩
  | case6 c rest ih =>
    by_cases lineEnd : c = '\n'
    · simp only [if_pos lineEnd] at left ih ⊢
      obtain ⟨trivia, same⟩ := ih left
      exact ⟨[], trivia, by simp, by rw [lineEnd, ← same]; rfl⟩
    · simp only [if_neg lineEnd] at left ih ⊢
      obtain ⟨content, trivia, oneLine, same⟩ := ih left
      refine ⟨c :: content, trivia, ?_, by rw [List.cons_append, ← same]⟩
      rw [List.mem_cons, not_or]
      exact ⟨Ne.symm lineEnd, oneLine⟩
  | case7 rest ih =>
    obtain ⟨trivia, same⟩ := ih left
    exact ⟨[], trivia, by simp, by rw [← same]; rfl⟩
  | case8 c rest goesOn ih =>
    obtain ⟨content, trivia, unended, same⟩ := ih left
    refine ⟨c :: content, trivia, unended_cons unended ?_, by rw [List.cons_append, ← same]⟩
    rintro more rfl rfl
    exact goesOn _ rfl same

theorem trivia_of_skipTrivia {cs rest : List Char} {c : Char} (skipped : skipTrivia cs = c :: rest) :
    ∃ trivia : Trivia, cs = trivia.text ++ c :: rest := by
  have left : dropTrivia .code cs ≠ [] := by
    rw [← skipTrivia, skipped]
    simp
  obtain ⟨trivia, same⟩ := passes_dropTrivia left
  exact ⟨trivia, by rw [← skipped]; exact same⟩

/-- Where a body is found, a header stands before it. -/
theorem head_of_arrowBody? {rest body : List Char} {c : Char} (found : arrowBody? rest = some (c :: body)) :
    ∃ head : ArrowHead, rest = head.rest ++ c :: body := by
  unfold arrowBody? at found
  split at found
  · next close atClose =>
    split at found
    · next arrow atArrow =>
      obtain ⟨inParens, one⟩ := trivia_of_skipTrivia atClose
      obtain ⟨beforeArrow, two⟩ := trivia_of_skipTrivia atArrow
      obtain ⟨afterArrow, three⟩ := trivia_of_skipTrivia (Option.some.inj found)
      exact ⟨⟨inParens, beforeArrow, afterArrow⟩, by rw [one, two, three]; simp [ArrowHead.rest]⟩
    · cases found
  · cases found

namespace Part

theorem of_quoted {quote : Char} (isQuote : quote = '\'' ∨ quote = '"') {rest : List Char} {length : Nat}
    (found : quotedLength? quote rest = some length) :
    ∃ part : Part, part.HasKind .quoted ∧ part.text = quote :: rest.take length ∧ part.IsWhole (rest.drop length) := by
  obtain ⟨content, fits, taken⟩ := content_of_quotedLength? found
  exact ⟨.string ⟨quote, isQuote, content, fits⟩, .string _, by rw [taken]; rfl, trivial⟩

theorem of_lineComment {rest : List Char} (opens : rest.head? = some '/') :
    ∃ part : Part, part.HasKind .comment ∧ part.text = '/' :: rest.take (rest.takeWhile (· ≠ '\n')).length ∧
      part.IsWhole (rest.drop (rest.takeWhile (· ≠ '\n')).length) := by
  obtain ⟨rest, rfl⟩ := List.head?_eq_some_iff.mp opens
  have oneLine : '\n' ∉ rest.takeWhile (· ≠ '\n') := fun inside => by simpa using List.mem_takeWhile_imp inside
  rw [Text.take_run, Text.drop_run]
  exact ⟨.comment (.line _ oneLine), .comment _, rfl, Text.ends_dropWhile _⟩

theorem of_blockComment {rest : List Char} {length : Nat} (opens : rest.head? = some '*')
    (found : commentLength? (rest.drop 1) = some length) :
    ∃ part : Part, part.HasKind .comment ∧ part.text = '/' :: rest.take (length + 1) ∧
      part.IsWhole (rest.drop (length + 1)) := by
  obtain ⟨rest, rfl⟩ := List.head?_eq_some_iff.mp opens
  obtain ⟨content, unended, taken⟩ := content_of_commentLength? found
  refine ⟨.comment (.block content unended), .comment _, ?_, trivial⟩
  rw [List.take_succ_cons]
  simpa [text, Comment.text] using taken.symm

theorem of_word {c : Char} (key : isKeyChar c = true) (rest : List Char) :
    ∃ part : Part, part.HasKind .word ∧ part.text = c :: rest.take (rest.takeWhile isKeyChar).length ∧
      part.IsWhole (rest.drop (rest.takeWhile isKeyChar).length) := by
  have isWord : (c :: rest.takeWhile isKeyChar).all isKeyChar = true := by
    rw [List.all_cons, key, Bool.true_and, List.all_eq_true]
    exact fun d => List.mem_takeWhile_imp
  rw [Text.take_run, Text.drop_run]
  exact ⟨.word _ (List.cons_ne_nil c _) isWord, .word .., rfl, Text.ends_dropWhile rest⟩

/-- An opening parenthesis begins a header with its body, or stands by itself before no header at all. -/
theorem of_paren {start : Nat} {rest : List Char} {kind : LexemeKind} {taken : Nat}
    (found : recogniseParen start rest = .ok (kind, taken)) :
    ∃ part : Part, part.HasKind kind ∧ part.text = '(' :: rest.take taken ∧ part.IsWhole (rest.drop taken) := by
  unfold recogniseParen at found
  split at found
  · next noBody =>
    cases found
    refine ⟨.char '(', .other (by decide), rfl, rfl, by decide, by decide, by decide, by simp, ?_⟩
    rintro - head tail rfl
    rw [head.arrowBody?_append] at noBody
    cases noBody
  · next body atBody =>
    split at found
    · next inside =>
      obtain ⟨head, rfl⟩ := head_of_arrowBody? atBody
      cases found
      refine ⟨.header head '(' (.inl rfl), .arrowParen head _, ?_, trivial⟩
      simp [text, ArrowHead.text, List.take_length_add_append]
    · next inside =>
      obtain ⟨head, rfl⟩ := head_of_arrowBody? atBody
      cases found
      refine ⟨.header head '[' (.inr rfl), .arrowBracket head _, ?_, trivial⟩
      simp [text, ArrowHead.text, List.take_length_add_append]
    · cases found
    · cases found

theorem of_delimiter {start : Nat} {c : Char} {rest : List Char} {kind : LexemeKind} {taken : Nat}
    (delimiter : c ∈ delimiters) (found : recognise start c rest = .ok (kind, taken)) :
    ∃ part : Part, part.HasKind kind ∧ part.text = c :: rest.take taken ∧ part.IsWhole (rest.drop taken) := by
  suffices single : (char c).HasKind kind ∧ taken = 0 ∧ (char c).IsWhole rest by
    obtain ⟨hasKind, rfl, whole⟩ := single
    exact ⟨.char c, hasKind, rfl, whole⟩
  have whole {c : Char} (noWord : isKeyChar c = false) (noOpening : c ∉ ['\'', '"', '\x60', '/', '(']) :
      (char c).IsWhole rest := by
    simp only [List.mem_cons, List.not_mem_nil, or_false, not_or] at noOpening
    simp [IsWhole, noWord, noOpening]
  simp only [delimiters, List.mem_cons, List.not_mem_nil, or_false] at delimiter
  rcases delimiter with rfl | rfl | rfl | rfl | rfl | rfl | rfl <;> cases found <;>
    exact ⟨by constructor, rfl, whole rfl (by decide)⟩

/-- Whatever stands at the start of a text, what is recognised there is a part of it. -/
theorem of_recognise {start : Nat} {c : Char} {rest : List Char} {kind : LexemeKind} {taken : Nat}
    (found : recognise start c rest = .ok (kind, taken)) :
    ∃ part : Part, part.HasKind kind ∧ part.text = c :: rest.take taken ∧ part.IsWhole (rest.drop taken) := by
  by_cases delimiter : c ∈ delimiters
  · exact of_delimiter delimiter found
  have plain := delimiter
  simp only [delimiters, List.mem_cons, List.not_mem_nil, or_false, not_or] at plain
  obtain ⟨noBrace, noBraceEnd, noBracket, noBracketEnd, noParenEnd, noComma, noSemicolon⟩ := plain
  rw [recognise, if_neg noBrace, if_neg noBraceEnd, if_neg noBracket, if_neg noBracketEnd, if_neg noParenEnd,
    if_neg noComma, if_neg noSemicolon] at found
  by_cases isQuote : c = '\'' ∨ c = '"'
  · rw [if_pos isQuote] at found
    cases inside : quotedLength? c rest with
    | none =>
      rw [inside] at found
      cases found
    | some length =>
      rw [inside] at found
      cases found
      exact of_quoted isQuote inside
  rw [if_neg isQuote] at found
  by_cases template : c = '\x60'
  · rw [if_pos template] at found
    cases found
  rw [if_neg template] at found
  by_cases line : c = '/' ∧ rest.head? = some '/'
  · rw [if_pos line] at found
    obtain ⟨rfl, opens⟩ := line
    cases found
    exact of_lineComment opens
  rw [if_neg line] at found
  by_cases block : c = '/' ∧ rest.head? = some '*'
  · rw [if_pos block] at found
    obtain ⟨rfl, opens⟩ := block
    cases inside : commentLength? (rest.drop 1) with
    | none =>
      rw [inside] at found
      cases found
    | some length =>
      rw [inside] at found
      cases found
      exact of_blockComment opens inside
  rw [if_neg block] at found
  by_cases paren : c = '('
  · rw [if_pos paren] at found
    subst paren
    exact of_paren found
  rw [if_neg paren] at found
  by_cases key : isKeyChar c = true
  · rw [if_pos key] at found
    cases found
    exact of_word key rest
  rw [if_neg key] at found
  cases found
  refine ⟨.char c, .other delimiter, rfl, by simpa using key, (isQuote <| .inl ·), (isQuote <| .inr ·), template, ?_,
    fun opens => absurd opens paren⟩
  rintro slash d next
  exact ⟨fun again => line ⟨slash, again ▸ next⟩, fun star => block ⟨slash, star ▸ next⟩⟩

end Part

theorem ArrowHead.take_rest (head : ArrowHead) (body : List Char) :
    (head.rest ++ body).take ((head.rest ++ body).length - body.length) = head.rest := by
  have length : (head.rest ++ body).length - body.length = head.rest.length := by
    rw [List.length_append]
    omega
  rw [length, List.take_left]

/-- The delimiter that opens the body of a function is the last character of its lexeme. -/
theorem body_of_recogniseParen {start taken body : Nat} {rest : List Char} {kind : LexemeKind}
    (found : recogniseParen start rest = .ok (kind, taken))
    (atBody : kind = .arrowParen body ∨ kind = .arrowBracket body) :
    body + 1 = start + Text.bytes ('(' :: rest.take taken) := by
  have place (head : ArrowHead) {delimiter : Char} (narrow : delimiter.utf8Size = 1) (tail : List Char) :
      start + 1 + Text.bytes head.rest + 1 =
        start + Text.bytes ('(' :: (head.rest ++ delimiter :: tail).take (head.rest.length + 1)) := by
    have paren : '('.utf8Size = 1 := rfl
    rw [List.take_length_add_append, List.take_succ_cons, List.take_zero, Text.bytes_cons, Text.bytes_append,
      Text.bytes_cons, Text.bytes_nil, paren, narrow]
    omega
  unfold recogniseParen at found
  split at found
  · cases found
    rcases atBody with other | other <;> cases other
  · next there =>
    split at found
    · obtain ⟨head, rfl⟩ := head_of_arrowBody? there
      rw [head.take_rest] at found
      cases found
      rcases atBody with same | other
      · cases same
        exact place head rfl _
      · cases other
    · obtain ⟨head, rfl⟩ := head_of_arrowBody? there
      rw [head.take_rest] at found
      cases found
      rcases atBody with other | same
      · cases other
      · cases same
        exact place head rfl _
    · cases found
    · cases found

theorem body_of_recognise {start taken body : Nat} {c : Char} {rest : List Char} {kind : LexemeKind}
    (found : recognise start c rest = .ok (kind, taken))
    (atBody : kind = .arrowParen body ∨ kind = .arrowBracket body) :
    body + 1 = start + Text.bytes (c :: rest.take taken) := by
  obtain ⟨part, hasKind, here, _⟩ := Part.of_recognise found
  have paren : '(' = c := by
    rcases atBody with rfl | rfl
    · cases hasKind
      exact (List.cons.inj here).1
    · cases hasKind
      exact (List.cons.inj here).1
  subst paren
  exact body_of_recogniseParen found atBody

/-- The part is read as a lexeme of a kind at an offset, and a body that opens with it opens with its last
character. -/
structure Part.ReadAs (part : Part) (kind : LexemeKind) (start : Nat) : Prop where
  hasKind : part.HasKind kind
  body : ∀ body, kind = .arrowParen body ∨ kind = .arrowBracket body → body + 1 = start + Text.bytes part.text

theorem Part.readAs_of_recognise {start : Nat} {c : Char} {rest : List Char} {kind : LexemeKind} {taken : Nat}
    (found : recognise start c rest = .ok (kind, taken)) :
    ∃ part : Part, part.ReadAs kind start ∧ part.text = c :: rest.take taken ∧ part.IsWhole (rest.drop taken) := by
  obtain ⟨part, hasKind, here, whole⟩ := of_recognise found
  refine ⟨part, ⟨hasKind, fun body atBody => ?_⟩, here, whole⟩
  rw [here]
  exact body_of_recognise found atBody

end ThemeSense.Script
