import ThemeSense.Proofs.Json.Units

namespace ThemeSense.Json.Relaxed

/-- A text that goes on with no number and no name. -/
def Delimits (rest : List Char) : Prop :=
  rest.head?.all (fun c => !isNumberChar c && !isNameChar c) = true

theorem delimits_nil : Delimits [] := rfl

theorem delimits_cons {c : Char} {rest : List Char} :
    Delimits (c :: rest) ↔ isNumberChar c = false ∧ isNameChar c = false := by
  simp [Delimits]

theorem exponentSign_le (word : List Char) : (exponentSign word).2 ≤ word.length := by
  unfold exponentSign
  split <;> simp

theorem wholeDigits_le (word : List Char) : (wholeDigits word).length ≤ word.length := by
  unfold wholeDigits
  split
  · simp
  · exact (List.takeWhile_sublist _).length_le

theorem decimal?_whole {cs : List Char} (noPoint : ∀ tail, cs.drop (wholeDigits cs).length ≠ '.' :: tail)
    (negative : Bool) :
    decimal? negative cs =
      if (wholeDigits cs).isEmpty then none
      else some (⟨negative, wholeDigits cs, [], (exponent (cs.drop (wholeDigits cs).length)).1.getD 0⟩,
        (exponent (cs.drop (wholeDigits cs).length)).1.isNone,
        (wholeDigits cs).length + (exponent (cs.drop (wholeDigits cs).length)).2) := by
  cases left : cs.drop (wholeDigits cs).length with
  | nil => simp [decimal?, left]
  | cons c tail =>
    have other : c ≠ '.' := by
      rintro rfl
      exact noPoint tail left
    simp [decimal?, left, other]

/-- A text that does not start with the mark of a hexadecimal number. -/
def NoHexMark (cs : List Char) : Prop :=
  ∀ x tail, cs = '0' :: x :: tail → ¬ (x = 'x' ∨ x = 'X')

theorem NoHexMark.unsigned? {cs : List Char} (noMark : NoHexMark cs) : unsigned? cs = decimalScalar? false cs := by
  unfold Relaxed.unsigned?
  split
  · rename_i x tail
    rw [if_neg fun mark => noMark x tail rfl mark.1]
  · rfl

theorem NoHexMark.signed? {cs : List Char} (noMark : NoHexMark cs) (negative : Bool) :
    signed? negative cs =
      if negative && "Infinity".toList.isPrefixOf cs then some (.null, 8)
      else if negative && "NaN".toList.isPrefixOf cs then some (.null, 3)
      else decimalScalar? negative cs := by
  unfold Relaxed.signed?
  split
  · rename_i x tail
    rw [if_neg (noMark x tail rfl)]
    simp
  · rfl

theorem hexMark_cases (cs : List Char) :
    NoHexMark cs ∨ ∃ x tail, cs = '0' :: x :: tail ∧ (x = 'x' ∨ x = 'X') := by
  by_cases mark : ∃ x tail, cs = '0' :: x :: tail ∧ (x = 'x' ∨ x = 'X')
  · exact .inr mark
  · exact .inl fun x tail equal isMark => mark ⟨x, tail, equal, isMark⟩

namespace Delimits

variable {rest : List Char} (delimits : Delimits rest)

include delimits

theorem head_ne {c : Char} (isChar : isNumberChar c = true ∨ isNameChar c = true) (tail : List Char) :
    rest ≠ c :: tail := by
  rintro rfl
  rw [delimits_cons] at delimits
  simp [delimits] at isChar

theorem takeWhile_append {p : Char → Bool} (isChar : ∀ c, p c = true → isNumberChar c = true ∨ isNameChar c = true)
    (word : List Char) : (word ++ rest).takeWhile p = word.takeWhile p := by
  have none : rest.takeWhile p = [] := by
    cases rest with
    | nil => rfl
    | cons c rest =>
      refine List.takeWhile_cons_of_neg fun holds => ?_
      exact delimits.head_ne (isChar c holds) rest rfl
  rw [List.takeWhile_append, none]
  split
  · rename_i whole
    rw [List.append_nil]
    exact ((List.takeWhile_prefix p).eq_of_length whole).symm
  · rfl

theorem digits_append (word : List Char) : (word ++ rest).takeWhile Char.isDigit = word.takeWhile Char.isDigit :=
  delimits.takeWhile_append (fun _ digit => .inl (isNumberChar_of_isDigit digit)) word

/-- A word that stands before a delimiter stands there without what follows it. -/
theorem isPrefixOf_append {first : List Char} (numeric : first.all isNumberChar = true) (word : List Char) :
    first.isPrefixOf (word ++ rest) = first.isPrefixOf word := by
  induction word generalizing first with
  | nil =>
    cases first with
    | nil => simp
    | cons c first =>
      rw [List.all_cons, Bool.and_eq_true] at numeric
      cases rest with
      | nil => rfl
      | cons d rest =>
        have other : c ≠ d := by
          rintro rfl
          exact delimits.head_ne (.inl numeric.1) rest rfl
        simp [List.isPrefixOf, other]
  | cons d word ih =>
    cases first with
    | nil => rfl
    | cons c first =>
      rw [List.all_cons, Bool.and_eq_true] at numeric
      simp [List.isPrefixOf, ih numeric.2]

theorem wholeDigits_append (word : List Char) : wholeDigits (word ++ rest) = wholeDigits word := by
  have digits := delimits.digits_append word
  cases word with
  | nil =>
    rw [List.nil_append, wholeDigits, ← List.nil_append rest, digits]
    · rfl
    · exact fun tail => delimits.head_ne (.inl rfl) tail
  | cons c word =>
    by_cases zero : c = '0'
    · subst zero
      rfl
    · rw [List.cons_append, wholeDigits, wholeDigits, ← List.cons_append, digits]
      all_goals
        rintro tail equal
        exact zero (List.cons.inj equal).1

theorem exponentSign_append (word : List Char) : exponentSign (word ++ rest) = exponentSign word := by
  cases word with
  | nil =>
    rw [List.nil_append, exponentSign]
    · rfl
    · exact delimits.head_ne (.inl rfl)
    · exact delimits.head_ne (.inl rfl)
  | cons c word =>
    by_cases minus : c = '-'
    · subst minus
      rfl
    by_cases plus : c = '+'
    · subst plus
      rfl
    · simp [exponentSign, minus, plus]

theorem exponent_append (word : List Char) : exponent (word ++ rest) = exponent word := by
  cases word with
  | nil =>
    cases rest with
    | nil => rfl
    | cons c rest =>
      have noMark : ¬ (c = 'e' ∨ c = 'E') := by
        rintro (rfl | rfl) <;> exact delimits.head_ne (.inl rfl) rest rfl
      simp [exponent, noMark]
  | cons c word =>
    simp only [List.cons_append, exponent, delimits.exponentSign_append,
      List.drop_append_of_le_length (exponentSign_le word), delimits.digits_append]

theorem decimal?_append (negative : Bool) (word : List Char) :
    decimal? negative (word ++ rest) = decimal? negative word := by
  have whole := delimits.wholeDigits_append word
  have left : (word ++ rest).drop (wholeDigits word).length = word.drop (wholeDigits word).length ++ rest :=
    List.drop_append_of_le_length (wholeDigits_le word)
  by_cases point : ∃ tail, word.drop (wholeDigits word).length = '.' :: tail
  · obtain ⟨tail, point⟩ := point
    have inTail : (tail.takeWhile Char.isDigit).length ≤ tail.length := (List.takeWhile_sublist _).length_le
    simp only [decimal?, left, whole, point, List.cons_append, delimits.digits_append,
      List.drop_append_of_le_length inTail, delimits.exponent_append]
  · rw [not_exists] at point
    have noPoint : ∀ tail, (word ++ rest).drop (wholeDigits (word ++ rest)).length ≠ '.' :: tail := by
      intro tail
      rw [whole, left]
      cases inside : word.drop (wholeDigits word).length with
      | nil => exact delimits.head_ne (.inl rfl) tail
      | cons c others =>
        intro equal
        exact point others (inside.trans (congrArg (· :: others) (List.cons.inj equal).1))
    rw [decimal?_whole noPoint, decimal?_whole point, whole, left, delimits.exponent_append]

theorem decimalScalar?_append (negative : Bool) (word : List Char) :
    decimalScalar? negative (word ++ rest) = decimalScalar? negative word := by
  unfold decimalScalar?
  rw [delimits.decimal?_append]

theorem noHexMark {word : List Char} (noMark : NoHexMark word) : NoHexMark (word ++ rest) := by
  intro x tail equal mark
  match word with
  | [] => exact delimits.head_ne (.inl rfl) (x :: tail) equal
  | [c] =>
    have isNumber : isNumberChar x = true := by rcases mark with rfl | rfl <;> rfl
    exact delimits.head_ne (.inl isNumber) tail (List.cons.inj equal).2
  | c :: d :: word =>
    simp only [List.cons_append, List.cons.injEq] at equal
    obtain ⟨rfl, rfl, -⟩ := equal
    exact noMark _ word rfl mark

theorem unsigned?_append (word : List Char) : unsigned? (word ++ rest) = unsigned? word := by
  rcases hexMark_cases word with noMark | ⟨x, tail, rfl, mark⟩
  · rw [(delimits.noHexMark noMark).unsigned?, noMark.unsigned?, delimits.decimalScalar?_append]
  · have hex : (tail ++ rest).takeWhile Hex.isDigit = tail.takeWhile Hex.isDigit :=
      delimits.takeWhile_append (fun _ digit => .inl (isNumberChar_of_hex digit)) tail
    have sameHead : (tail ++ rest).head?.any Hex.isDigit = tail.head?.any Hex.isDigit := by
      cases tail with
      | nil =>
        cases rest with
        | nil => rfl
        | cons c rest =>
          have noHex : ¬ Hex.isDigit c = true := fun digit =>
            delimits.head_ne (.inl (isNumberChar_of_hex digit)) rest rfl
          simpa using noHex
      | cons c tail => rfl
    have decimal := delimits.decimalScalar?_append false ('0' :: x :: tail)
    simp only [List.cons_append] at decimal ⊢
    simp only [unsigned?, sameHead, hex, decimal]

theorem signed?_append (negative : Bool) (word : List Char) :
    signed? negative (word ++ rest) = signed? negative word := by
  rcases hexMark_cases word with noMark | ⟨x, tail, rfl, mark⟩
  · rw [(delimits.noHexMark noMark).signed?, noMark.signed?, delimits.decimalScalar?_append,
      delimits.isPrefixOf_append rfl, delimits.isPrefixOf_append rfl]
  · simp [signed?, mark]

theorem noName : rest.head?.all (!isNameChar ·) = true := by
  cases rest with
  | nil => rfl
  | cons c rest => simp [(delimits_cons.mp delimits).2]

end Delimits

theorem name?_append {word rest : List Char} (isName : ∀ c ∈ word, isNameChar c = true) (noEscape : '\\' ∉ word)
    (ended : rest.head?.all (!isNameChar ·) = true) : name? none (word ++ rest) = some (word, word.length) := by
  induction word with
  | nil =>
    cases rest with
    | nil => rfl
    | cons c rest =>
      simp only [List.head?_cons, Option.all_some, isNameChar, Bool.not_or, Bool.and_eq_true, Bool.not_eq_true',
        beq_eq_false_iff_ne] at ended
      simp [name?, ended]
  | cons c word ih =>
    rw [List.forall_mem_cons] at isName
    rw [List.mem_cons, not_or] at noEscape
    have inside := isName.1
    simp only [isNameChar, Bool.or_eq_true, beq_iff_eq, Ne.symm noEscape.1, or_false] at inside
    rw [List.cons_append, name?, if_neg (by simp [Ne.symm noEscape.1]), if_pos (by simpa using inside),
      ih isName.2 noEscape.2]
    · rfl
    · rintro a b c d others rfl
      exact absurd rfl noEscape.1

theorem string?_pos {quote : Char} {pending : Option Nat} {cs text : List Char} {taken : Nat}
    (read : string? quote pending cs = some (text, taken)) : 0 < taken := by
  fun_induction string? quote pending cs generalizing text taken with
  | case1 | case3 | case5 | case8 | case10 => cases read
  | case11 =>
    cases read
    exact Nat.one_pos
  | case2 | case4 | case6 | case7 | case9 | case12 =>
    obtain ⟨_, left, _, _, rfl⟩ := prepend_eq_some read
    omega

theorem string?_char {quote c : Char} {pending : Option Nat} (noEscape : c ≠ '\\') (rest : List Char) :
    string? quote pending (c :: rest) =
      if pending.isSome || isLineEnd c || c = '\\' then none
      else if c = quote then some ([], 1)
      else prepend [c] 1 (string? quote none rest) := by
  rw [string?]
  all_goals
    intros
    contradiction

/-- A string is read in the same way whatever follows it. -/
theorem string?_local {quote : Char} {pending : Option Nat} {cs text : List Char} {taken : Nat}
    (read : string? quote pending cs = some (text, taken)) (other : List Char) :
    string? quote pending (cs.take taken ++ other) = some (text, taken) := by
  fun_induction string? quote pending cs generalizing text taken with
  | case1 | case3 | case5 | case8 | case10 => cases read
  | case2 pending rest ih =>
    obtain ⟨others, left, tail, rfl, rfl⟩ := prepend_eq_some read
    simp [string?, ih tail, prepend]
  | case4 pending a b c d rest escaped pending' unit ih =>
    obtain ⟨others, left, tail, rfl, rfl⟩ := prepend_eq_some read
    simp [string?, unit, ih tail, prepend]
  | case6 a b rest n number ih =>
    obtain ⟨others, left, tail, rfl, rfl⟩ := prepend_eq_some read
    simp [string?, number, ih tail, prepend]
  | case7 pending c rest noJoin _ _ ended ih =>
    obtain ⟨others, left, tail, rfl, rfl⟩ := prepend_eq_some read
    have stillNoJoin : ∀ more, c = '\r' → rest.take left ++ other ≠ '\n' :: more := by
      obtain ⟨left, rfl⟩ := Nat.exists_eq_add_one.mpr (string?_pos tail)
      cases rest with
      | nil => cases tail
      | cons d rest =>
        rintro more isReturn equal
        exact noJoin rest isReturn (congrArg (· :: rest) (List.cons.inj equal).1)
    rw [List.take_succ_cons, List.take_succ_cons, List.cons_append, List.cons_append, string?, if_pos ended, ih tail]
    · rfl
    · exact stillNoJoin
    · rintro _ _ _ _ _ rfl
      cases ended
    · rintro _ _ _ _ rfl
      cases ended
  | case9 pending c rest _ _ _ noEnd plain ih =>
    obtain ⟨others, left, tail, rfl, rfl⟩ := prepend_eq_some read
    rw [List.take_succ_cons, List.take_succ_cons, List.cons_append, List.cons_append, string?, if_neg noEnd,
      if_neg plain, ih tail]
    · rfl
    · rintro _ rfl
      exact absurd rfl noEnd
    · rintro _ _ _ _ _ rfl
      simp at plain
    · rintro _ _ _ _ rfl
      simp at plain
  | case11 pending rest _ _ _ _ plain =>
    cases read
    have noEscape : quote ≠ '\\' := by
      rintro rfl
      simp at plain
    rw [List.take_succ_cons, List.cons_append, string?_char noEscape, if_neg plain, if_pos rfl]
  | case12 pending c rest _ _ _ _ plain noQuote ih =>
    obtain ⟨others, left, tail, rfl, rfl⟩ := prepend_eq_some read
    have noEscape : c ≠ '\\' := by
      rintro rfl
      simp at plain
    rw [List.take_succ_cons, List.cons_append, string?_char noEscape, if_neg plain, if_neg noQuote, ih tail]
    rfl

end ThemeSense.Json.Relaxed
