import ThemeSense.Json.Relaxed
import ThemeSense.Proofs.Text.Runs

namespace ThemeSense.Json.Relaxed

/-- The characters of numbers. -/
def isNumberChar (c : Char) : Bool :=
  c.isAlphanum || c == '.' || c == '+' || c == '-'

/-- The characters of names and of the escapes in them. -/
def isNameChar (c : Char) : Bool :=
  isLetter c || c == '$' || isNameTail c || c == '\\'

theorem isNameChar_of_isAlphanum {c : Char} (alphanumeric : c.isAlphanum = true) : isNameChar c = true := by
  simp only [Char.isAlphanum, Bool.or_eq_true] at alphanumeric
  rcases alphanumeric with alpha | digit
  · simp [isNameChar, isLetter, alpha]
  · simp [isNameChar, isNameTail, digit]

theorem isNumberChar_of_isDigit {c : Char} (digit : c.isDigit = true) : isNumberChar c = true := by
  simp [isNumberChar, Char.isAlphanum, digit]

theorem isNumberChar_of_hex {c : Char} (hex : Hex.isDigit c = true) : isNumberChar c = true := by
  simp [isNumberChar, isAlphanum_of_hex hex]

/-- There are `count` characters at the start that can stand in a number. -/
structure Numeric (count : Nat) (cs : List Char) : Prop where
  fits : count ≤ cs.length
  chars : (cs.take count).all isNumberChar = true

namespace Numeric

theorem zero (cs : List Char) : Numeric 0 cs :=
  ⟨Nat.zero_le _, rfl⟩

theorem add {first second : Nat} {cs : List Char} (one : Numeric first cs) (two : Numeric second (cs.drop first)) :
    Numeric (first + second) cs where
  fits := by
    have inside := one.fits
    have behind := two.fits
    rw [List.length_drop] at behind
    omega
  chars := by
    rw [List.take_add, List.all_append, one.chars, two.chars]
    rfl

theorem cons {c : Char} {count : Nat} {cs : List Char} (head : isNumberChar c = true) (tail : Numeric count cs) :
    Numeric (1 + count) (c :: cs) := by
  rw [Nat.add_comm]
  refine ⟨Nat.succ_le_succ tail.fits, ?_⟩
  rw [List.take_succ_cons, List.all_cons, head, tail.chars]
  rfl

theorem of_prefix {word cs : List Char} (first : word <+: cs) (numeric : word.all isNumberChar = true) :
    Numeric word.length cs := by
  refine ⟨first.length_le, ?_⟩
  rw [← List.prefix_iff_eq_take.mp first]
  exact numeric

theorem takeWhile {p : Char → Bool} (numeric : ∀ c, p c = true → isNumberChar c = true) (cs : List Char) :
    Numeric (cs.takeWhile p).length cs := by
  refine of_prefix (List.takeWhile_prefix p) ?_
  rw [List.all_eq_true]
  intro c member
  exact numeric c (List.all_eq_true.mp List.all_takeWhile c member)

theorem wholeDigits (cs : List Char) : Numeric (wholeDigits cs).length cs := by
  unfold Relaxed.wholeDigits
  split
  · exact of_prefix (List.prefix_append ['0'] _) rfl
  · exact takeWhile (fun _ => isNumberChar_of_isDigit) _

theorem exponentSign (cs : List Char) : Numeric (exponentSign cs).2 cs := by
  unfold Json.exponentSign
  split
  · exact of_prefix (List.prefix_append ['-'] _) rfl
  · exact of_prefix (List.prefix_append ['+'] _) rfl
  · exact zero _

theorem exponent (cs : List Char) : Numeric (exponent cs).2 cs := by
  cases cs with
  | nil => exact zero []
  | cons e rest =>
    simp only [Relaxed.exponent]
    split
    · rename_i found
      have isExponent : isNumberChar e = true := by rcases found.1 with rfl | rfl <;> rfl
      rw [Nat.add_assoc]
      exact .cons isExponent ((exponentSign rest).add (takeWhile (fun _ => isNumberChar_of_isDigit) _))
    · exact zero _

theorem decimal {negative : Bool} {cs : List Char} {literal : DecimalLiteral} {whole : Bool} {taken : Nat}
    (found : decimal? negative cs = some (literal, whole, taken)) : Numeric taken cs := by
  unfold decimal? at found
  simp only at found
  split at found
  · rename_i rest point
    split at found
    · cases found
    · cases found
      rw [Nat.add_assoc, Nat.add_assoc]
      refine (wholeDigits cs).add ?_
      rw [point]
      exact .cons rfl ((takeWhile (fun _ => isNumberChar_of_isDigit) rest).add (exponent _))
  · split at found
    · cases found
    · cases found
      exact (wholeDigits cs).add (exponent _)

theorem decimalScalar {negative : Bool} {cs : List Char} {value : Json} {taken : Nat}
    (found : decimalScalar? negative cs = some (value, taken)) : Numeric taken cs := by
  obtain ⟨⟨literal, whole, count⟩, read, rest⟩ := Option.bind_eq_some_iff.mp found
  obtain ⟨_, _, same⟩ := Option.map_eq_some_iff.mp rest
  cases same
  exact decimal read

theorem hexLiteral {x : Char} {rest : List Char} {value : Json} {taken : Nat} (isX : x = 'x' ∨ x = 'X')
    (found : hexLiteral? (rest.takeWhile Hex.isDigit) = some (value, taken)) : Numeric taken ('0' :: x :: rest) := by
  have isXChar : isNumberChar x = true := by rcases isX with rfl | rfl <;> rfl
  unfold hexLiteral? at found
  split at found
  · split at found
    · cases found
      rw [Nat.add_comm, show 2 = 1 + 1 from rfl, Nat.add_assoc]
      exact .cons rfl (.cons isXChar (takeWhile (fun _ => isNumberChar_of_hex) rest))
    · cases found
  · cases found

theorem unsigned {cs : List Char} {value : Json} {taken : Nat} (found : unsigned? cs = some (value, taken)) :
    Numeric taken cs := by
  unfold unsigned? at found
  split at found
  · split at found
    · rename_i hex
      exact hexLiteral hex.1 found
    · exact decimalScalar found
  · exact decimalScalar found

theorem signed {negative : Bool} {cs : List Char} {value : Json} {taken : Nat}
    (found : signed? negative cs = some (value, taken)) : Numeric taken cs := by
  unfold signed? at found
  split at found
  · split at found
    · cases found
    · exact decimalScalar found
  · split at found
    · rename_i infinite
      cases found
      simp only [Bool.and_eq_true, List.isPrefixOf_iff_prefix] at infinite
      exact of_prefix infinite.2 rfl
    split at found
    · rename_i undefined
      cases found
      simp only [Bool.and_eq_true, List.isPrefixOf_iff_prefix] at undefined
      exact of_prefix undefined.2 rfl
    · exact decimalScalar found

end Numeric

theorem hex_of_number? {digits : List Char} {n : Nat} (read : Hex.number? digits = some n) :
    ∀ c ∈ digits, Hex.isDigit c = true := by
  unfold Hex.number? at read
  generalize 0 = start at read
  induction digits generalizing start with
  | nil => simp
  | cons digit digits ih =>
    rw [List.foldlM_cons] at read
    obtain ⟨next, first, others⟩ := Option.bind_eq_some_iff.mp read
    obtain ⟨value, isDigit, _⟩ := Option.map_eq_some_iff.mp first
    rintro c (_ | ⟨_, member⟩)
    · simp [Hex.isDigit, isDigit]
    · exact ih next others c member

theorem hex_of_unit? {pending : Option Nat} {digits : List Char} {result : List Char × Option Nat}
    (read : unit? pending digits = some result) : ∀ c ∈ digits, Hex.isDigit c = true := by
  unfold unit? at read
  split at read
  · exact hex_of_number? (by assumption)
  · exact hex_of_number? (by assumption)
  · cases read

theorem prepend_eq_some {cs text : List Char} {count taken : Nat} {tail : Option (List Char × Nat)}
    (found : prepend cs count tail = some (text, taken)) :
    ∃ others left, tail = some (others, left) ∧ text = cs ++ others ∧ taken = left + count := by
  obtain ⟨⟨others, left⟩, read, same⟩ := Option.map_eq_some_iff.mp found
  cases same
  exact ⟨others, left, read, rfl, rfl⟩

/-- A name is a run of name characters that none follows. -/
theorem name?_chars {pending : Option Nat} {cs text : List Char} {taken : Nat}
    (found : name? pending cs = some (text, taken)) :
    taken ≤ cs.length ∧ (cs.take taken).all isNameChar = true ∧ (cs.drop taken).head?.all (!isNameChar ·) = true := by
  fun_induction name? pending cs generalizing text taken with
  | case1 | case3 | case6 => cases found
  | case2 pending a b c d rest escaped pending' read ih =>
    obtain ⟨others, left, tail, rfl, rfl⟩ := prepend_eq_some found
    have hex (digit : Char) (member : digit ∈ [a, b, c, d]) : isNameChar digit = true :=
      isNameChar_of_isAlphanum (isAlphanum_of_hex (hex_of_unit? read digit member))
    have lead : isNameChar '\\' = true ∧ isNameChar 'u' = true := ⟨rfl, rfl⟩
    simpa [lead, hex] using ih tail
  | case4 pending c rest _ _ isName ih =>
    obtain ⟨others, left, tail, rfl, rfl⟩ := prepend_eq_some found
    have head : isNameChar c = true := by
      simp only [Bool.or_eq_true, decide_eq_true_eq] at isName
      simp [isNameChar, isName]
    simpa [head] using ih tail
  | case5 pending c rest _ noEscape noName =>
    cases found
    simp only [Bool.or_eq_true, decide_eq_true_eq, not_or] at noEscape noName
    simp [isNameChar, noEscape, noName]
  | case7 => cases found; exact ⟨Nat.le_refl 0, rfl, rfl⟩

/-- What a lexical unit can be, from its first character and the rest of the text: the token that it
is, if it is not mere space, and how much of the rest belongs to it. -/
inductive Lexed (c : Char) (rest : List Char) : Option Token → Nat → Prop where
  | space (isSpace : isSpace c = true) : Lexed c rest none 0
  | lineComment {more : List Char} (opening : c = '/') (second : rest = '/' :: more) :
    Lexed c rest none (1 + (more.takeWhile (!isLineEnd ·)).length)
  | blockComment {more : List Char} {length : Nat} (opening : c = '/') (second : rest = '*' :: more)
    (ended : blockComment? more = some length) : Lexed c rest none (length + 1)
  | string {text : List Char} {taken : Nat} (quote : c = '"' ∨ c = '\'')
    (read : string? c none rest = some (text, taken)) :
    Lexed c rest (some (.text (String.ofList text))) taken
  | number {value : Json} {taken : Nat} (first : isNumberChar c = true) (others : Numeric taken rest) :
    Lexed c rest (some (.scalar value)) taken
  | name {text : List Char} {token : Token} {taken : Nat} (read : name? none (c :: rest) = some (text, taken + 1))
    (isName : token = .word (String.ofList text) ∨ token = .name (String.ofList text)) : Lexed c rest (some token) taken
  | punctuation {token : Token} (found : punctuation? c = some token) : Lexed c rest (some token) 0

theorem lexed_of_recognise {c : Char} {rest : List Char} {token : Option Token} {taken : Nat}
    (found : recognise c rest = some (token, taken)) : Lexed c rest token taken := by
  unfold recognise at found
  split at found
  · rename_i isSpace
    cases found
    exact .space isSpace
  split at found
  · rename_i opening
    split at found
    · cases found
      exact .lineComment opening rfl
    · obtain ⟨length, ended, same⟩ := Option.map_eq_some_iff.mp found
      cases same
      exact .blockComment opening rfl ended
    · cases found
  split at found
  · rename_i quote
    obtain ⟨⟨text, count⟩, read, same⟩ := Option.map_eq_some_iff.mp found
    cases same
    exact .string quote read
  split at found
  · rename_i sign
    obtain ⟨⟨value, count⟩, read, same⟩ := Option.map_eq_some_iff.mp found
    cases same
    have first : isNumberChar c = true := by rcases sign with rfl | rfl <;> rfl
    exact .number first (.signed read)
  split at found
  · rename_i digit
    obtain ⟨⟨value, count⟩, read, same⟩ := Option.map_eq_some_iff.mp found
    cases same
    have first : isNumberChar c = true := by
      rcases digit with digit | rfl
      · exact isNumberChar_of_isDigit digit
      · rfl
    have numeric := Numeric.unsigned read
    cases count with
    | zero => exact .number first (.zero rest)
    | succ count =>
      refine .number first ?_
      obtain ⟨fits, chars⟩ := numeric
      rw [List.take_succ_cons, List.all_cons, Bool.and_eq_true] at chars
      exact ⟨Nat.le_of_succ_le_succ fits, chars.2⟩
  split at found
  · obtain ⟨⟨text, count⟩, read, same⟩ := Option.bind_eq_some_iff.mp found
    simp only at same
    split at same
    · cases same
    · rename_i nonempty
      have counted : count - 1 + 1 = count := by omega
      rw [← counted] at read
      split at same <;> cases same
      · exact .name read (.inl rfl)
      · exact .name read (.inr rfl)
  · obtain ⟨token, mark, same⟩ := Option.map_eq_some_iff.mp found
    cases same
    exact .punctuation mark

end ThemeSense.Json.Relaxed
