import ThemeSense.Proofs.Script.Tree

namespace ThemeSense.Script

theorem isAsciiBlank_iff {c : Char} :
    isAsciiBlank c = true ↔ c = ' ' ∨ c = '\t' ∨ c = '\n' ∨ c = '\x0c' ∨ c = '\r' := by
  simp [isAsciiBlank, or_assoc]

/-- A comment that has not ended does not end with its next character, whatever ends it later. -/
theorem not_ended_at {c : Char} {content : List Char} (unended : ¬ ['*', '/'] <:+: c :: content)
    (rest tail : List Char) : c :: (content ++ '*' :: rest) ≠ '*' :: '/' :: tail := by
  intro equal
  cases content with
  | nil => simp at equal
  | cons d content =>
    simp only [List.cons_append, List.cons.injEq] at equal
    exact unended ⟨[], content, by simp [equal.1, equal.2.1]⟩

theorem unended_tail {c : Char} {content : List Char} (unended : ¬ ['*', '/'] <:+: c :: content) :
    ¬ ['*', '/'] <:+: content :=
  fun inside => unended (List.infix_cons inside)

theorem unended_cons {c : Char} {content : List Char} (unended : ¬ ['*', '/'] <:+: content)
    (goesOn : ∀ more, c = '*' → content ≠ '/' :: more) : ¬ ['*', '/'] <:+: c :: content := by
  rw [List.infix_cons_iff, not_or]
  refine ⟨?_, unended⟩
  rintro ⟨more, same⟩
  simp only [List.cons_append, List.nil_append, List.cons.injEq] at same
  exact goesOn more same.1.symm same.2.symm

theorem commentLength?_block {content : List Char} (unended : ¬ ['*', '/'] <:+: content) (rest : List Char) :
    commentLength? (content ++ '*' :: '/' :: rest) = some (content.length + 2) := by
  induction content with
  | nil => rfl
  | cons c content ih =>
    rw [List.cons_append, commentLength?, ih (unended_tail unended)]
    · rfl
    · rintro tail rfl equal
      exact not_ended_at unended ('/' :: rest) tail (congrArg _ equal)

theorem dropTrivia_block {content : List Char} (unended : ¬ ['*', '/'] <:+: content) (rest : List Char) :
    dropTrivia .blockComment (content ++ '*' :: '/' :: rest) = dropTrivia .code rest := by
  induction content with
  | nil => rfl
  | cons c content ih =>
    rw [List.cons_append, dropTrivia, ih (unended_tail unended)]
    rintro tail rfl equal
    exact not_ended_at unended ('/' :: rest) tail (congrArg _ equal)

theorem dropTrivia_line {content : List Char} (oneLine : '\n' ∉ content) (rest : List Char) :
    dropTrivia .lineComment (content ++ '\n' :: rest) = dropTrivia .code rest := by
  induction content with
  | nil => simp [dropTrivia]
  | cons c content ih =>
    simp only [List.mem_cons, not_or] at oneLine
    simp [dropTrivia, Ne.symm oneLine.1, ih oneLine.2]

@[simp] theorem Trivia.text_nil : Trivia.text [] = [] := rfl

theorem Trivia.text_cons (trivium : Trivium) (trivia : Trivia) :
    Trivia.text (trivium :: trivia) = trivium.text ++ Trivia.text trivia :=
  List.flatMap_cons

/-- Space and comments do not count where space is skipped, whatever the comments hold. -/
theorem skipTrivia_text (trivia : Trivia) (rest : List Char) :
    skipTrivia (trivia.text ++ rest) = skipTrivia rest := by
  unfold skipTrivia
  induction trivia with
  | nil => rfl
  | cons trivium trivia ih =>
    rw [Trivia.text_cons, List.append_assoc]
    cases trivium with
    | blank c isBlank =>
      rcases isAsciiBlank_iff.mp isBlank with rfl | rfl | rfl | rfl | rfl <;>
        simpa [Trivium.text, dropTrivia, isAsciiBlank] using ih
    | line content oneLine => simpa [Trivium.text, dropTrivia, dropTrivia_line oneLine] using ih
    | block content unended => simpa [Trivium.text, dropTrivia, dropTrivia_block unended] using ih

/-- A string is read up to the quote that closes it, whatever it holds and whatever follows. -/
theorem quotedLength?_content {quote : Char} (isQuote : quote = '\'' ∨ quote = '"') {content : List Char}
    (fits : fitsQuotes quote content = true) (rest : List Char) :
    quotedLength? quote (content ++ quote :: rest) = some (content.length + 1) := by
  fun_induction fitsQuotes quote content with
  | case1 => rcases isQuote with rfl | rfl <;> simp [quotedLength?]
  | case2 => simp at fits
  | case3 c content ih => simp [quotedLength?, ih fits]
  | case4 c content notLast notEscape ih =>
    simp only [Bool.and_eq_true, bne_iff_ne, ne_eq] at fits
    obtain ⟨⟨noLineEnd, noQuote⟩, fits⟩ := fits
    have noEscape : c ≠ '\\' := by
      rintro rfl
      cases content with
      | nil => exact notLast rfl rfl
      | cons d content => exact notEscape d content rfl rfl
    rw [List.cons_append, quotedLength?, if_neg noLineEnd, if_neg noQuote, ih fits]
    · rfl
    · intro d content equal
      exact absurd equal noEscape

theorem isKeyChar_ne {c d : Char} (key : isKeyChar c = true) (other : isKeyChar d = false) : c ≠ d := by
  rintro rfl
  rw [key] at other
  cases other

/-- A text that does not go on with the word before it. -/
def Stops (rest : List Char) : Prop :=
  rest.head?.all (!isKeyChar ·) = true

theorem stops_cons {c : Char} {rest : List Char} : Stops (c :: rest) ↔ isKeyChar c = false := by
  simp [Stops]

theorem Stops.takeWhile_append {rest : List Char} (stops : Stops rest) (word : List Char) :
    (word ++ rest).takeWhile isKeyChar = word.takeWhile isKeyChar := by
  induction word with
  | nil =>
    cases rest with
    | nil => rfl
    | cons c rest => simp [stops_cons.mp stops]
  | cons c word ih => simp only [List.cons_append, List.takeWhile_cons, ih]

theorem Trivium.stops (trivium : Trivium) (rest : List Char) : Stops (trivium.text ++ rest) := by
  cases trivium with
  | blank c isBlank =>
    rcases isAsciiBlank_iff.mp isBlank with rfl | rfl | rfl | rfl | rfl <;> rfl
  | line content oneLine => rfl
  | block content unended => rfl

theorem Stops.trivia {rest : List Char} (stops : Stops rest) (trivia : Trivia) :
    Stops (trivia.text ++ rest) := by
  cases trivia with
  | nil => exact stops
  | cons trivium trivia =>
    rw [Trivia.text_cons, List.append_assoc]
    exact trivium.stops _

theorem ArrowHead.arrowBody?_append (head : ArrowHead) (rest : List Char) :
    Script.arrowBody? (head.rest ++ rest) = some (skipTrivia rest) := by
  have atArrow (more : List Char) : skipTrivia ('=' :: '>' :: more) = '=' :: '>' :: more := rfl
  have atClose (more : List Char) : skipTrivia (')' :: more) = ')' :: more := rfl
  simp [Script.arrowBody?, ArrowHead.rest, skipTrivia_text, atClose, atArrow]

theorem ArrowHead.arrowBody? (head : ArrowHead) {c : Char} (isBody : c = '(' ∨ c = '[') (rest : List Char) :
    Script.arrowBody? (head.rest ++ c :: rest) = some (c :: rest) := by
  rw [head.arrowBody?_append]
  rcases isBody with rfl | rfl <;> rfl

theorem ArrowHead.recogniseParen (head : ArrowHead) (start : Nat) (rest : List Char) :
    recogniseParen start (head.rest ++ '(' :: rest) =
      .ok (.arrowParen (start + 1 + Text.bytes head.rest), head.rest.length + 1) := by
  simp [Script.recogniseParen, head.arrowBody? (.inl rfl)]

theorem ArrowHead.recogniseBracket (head : ArrowHead) (start : Nat) (rest : List Char) :
    Script.recogniseParen start (head.rest ++ '[' :: rest) =
      .ok (.arrowBracket (start + 1 + Text.bytes head.rest), head.rest.length + 1) := by
  simp [Script.recogniseParen, head.arrowBody? (.inr rfl)]

end ThemeSense.Script
