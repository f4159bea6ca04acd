import Mathlib.Data.List.TakeWhile
import ThemeSense.Proofs.Json.Leaves
import ThemeSense.Proofs.Script.Lexing

namespace ThemeSense.Script

open Json Json.Relaxed

theorem quotedLength?_cons {quote c : Char} (noEscape : c ≠ '\\') (noLineEnd : c ≠ '\n') (noQuote : c ≠ quote)
    (rest : List Char) : quotedLength? quote (c :: rest) = (quotedLength? quote rest).map (· + 1) := by
  rw [quotedLength?, if_neg noLineEnd, if_neg noQuote]
  intro d more equal
  exact absurd equal noEscape

theorem quotedLength?_hex {quote c : Char} (isQuote : quote = '"' ∨ quote = '\'') (hex : Hex.isDigit c = true)
    (rest : List Char) : quotedLength? quote (c :: rest) = (quotedLength? quote rest).map (· + 1) := by
  have other (d : Char) (noHex : Hex.isDigit d = false) : c ≠ d := by
    rintro rfl
    rw [hex] at noHex
    cases noHex
  refine quotedLength?_cons (other '\\' rfl) (other '\n' rfl) (other quote ?_) rest
  rcases isQuote with rfl | rfl <;> rfl

/-- The continuation of a line that a string is read over in one piece, and cut by inlining. -/
def lineJoin : List Char :=
  ['\\', '\r', '\n']

theorem noJoin_of_append (first : List Char) {rest : List Char} (noJoin : ¬ lineJoin <:+: first ++ rest) :
    ¬ lineJoin <:+: rest :=
  fun inside => noJoin (inside.trans (List.suffix_append first rest).isInfix)

/-- Inlining finds the end of a string where it is, if it finds one at all. It finds one where no line is
continued over a carriage return and a line feed. -/
theorem quotedLength?_of_string? {quote : Char} (isQuote : quote = '"' ∨ quote = '\'') {pending : Option Nat}
    {cs text : List Char} {taken : Nat} (read : string? quote pending cs = some (text, taken))
    (ends : ¬ lineJoin <:+: cs.take taken ∨ (quotedLength? quote cs).isSome = true) :
    quotedLength? quote cs = some taken := by
  fun_induction string? quote pending cs generalizing text taken with
  | case1 | case3 | case5 | case8 | case10 => cases read
  | case2 pending rest ih =>
    obtain ⟨others, left, tail, rfl, rfl⟩ := prepend_eq_some read
    rcases ends with noJoin | found
    · exact absurd ⟨[], rest.take left, by simp [lineJoin]⟩ noJoin
    · simp [quotedLength?] at found
  | case4 pending a b c d rest escaped pending' unit ih =>
    obtain ⟨others, left, tail, rfl, rfl⟩ := prepend_eq_some read
    have hex := hex_of_unit? unit
    have inside := ih tail (ends.imp (fun noJoin => noJoin_of_append ['\\', 'u', a, b, c, d] (by simpa using noJoin))
      (by simp [quotedLength?, quotedLength?_hex isQuote, hex]))
    simp [quotedLength?, quotedLength?_hex isQuote, hex, inside]
  | case6 a b rest n number ih =>
    obtain ⟨others, left, tail, rfl, rfl⟩ := prepend_eq_some read
    have hex := hex_of_number? number
    have inside := ih tail (ends.imp (fun noJoin => noJoin_of_append ['\\', 'x', a, b] (by simpa using noJoin))
      (by simp [quotedLength?, quotedLength?_hex isQuote, hex]))
    simp [quotedLength?, quotedLength?_hex isQuote, hex, inside]
  | case7 pending c rest _ _ _ _ ih | case9 pending c rest _ _ _ _ _ ih =>
    obtain ⟨others, left, tail, rfl, rfl⟩ := prepend_eq_some read
    have inside := ih tail (ends.imp (fun noJoin => noJoin_of_append ['\\', c] (by simpa using noJoin))
      (by simp [quotedLength?]))
    simp [quotedLength?, inside]
  | case11 pending rest =>
    cases read
    rcases isQuote with rfl | rfl <;> simp [quotedLength?]
  | case12 pending c rest _ _ _ _ plain noQuote ih =>
    obtain ⟨others, left, tail, rfl, rfl⟩ := prepend_eq_some read
    simp only [Bool.or_eq_true, decide_eq_true_eq, not_or] at plain
    have noLineEnd : c ≠ '\n' := by
      rintro rfl
      exact plain.1.2 rfl
    have next := quotedLength?_cons plain.2 noLineEnd noQuote rest
    have inside := ih tail (ends.imp (fun noJoin => noJoin_of_append [c] (by simpa using noJoin)) (by simp [next]))
    rw [next, inside]
    rfl

section Characters

variable {c : Char}

theorem toNat_of_isPlainChar (plain : isPlainChar c = true) : 36 ≤ c.toNat ∧ c.toNat ≤ 122 := by
  simp only [isPlainChar, isKeyChar, Bool.or_eq_true, isAlphanum_iff, beq_iff_eq, UInt32.le_iff_toNat_le] at plain
  rcases plain with (((((((upper | lower) | digit) | rfl) | rfl) | rfl) | rfl) | rfl)
  · exact ⟨Nat.le_trans (by decide) upper.1, Nat.le_trans upper.2 (by decide)⟩
  · exact ⟨Nat.le_trans (by decide) lower.1, Nat.le_trans lower.2 (by decide)⟩
  · exact ⟨Nat.le_trans (by decide) digit.1, Nat.le_trans digit.2 (by decide)⟩
  all_goals decide

theorem toNat_of_isSpace (space : isSpace c = true) : c.toNat < 36 ∨ 122 < c.toNat := by
  simp only [isSpace, isLineEnd, Bool.or_eq_true, beq_iff_eq, Bool.and_eq_true, decide_eq_true_eq] at space
  rcases space with other | ((rfl | rfl) | rfl) | rfl
  · omega
  all_goals decide

theorem isPlainChar_of_isSpace (space : isSpace c = true) : isPlainChar c = false := by
  rw [← Bool.not_eq_true]
  intro plain
  have inside := toNat_of_isPlainChar plain
  have outside := toNat_of_isSpace space
  omega

theorem isPlainChar_of_isKeyChar (key : isKeyChar c = true) : isPlainChar c = true := by
  simp [isPlainChar, key]

theorem isKeyChar_of_isSpace (space : isSpace c = true) : isKeyChar c = false := by
  rw [← Bool.not_eq_true]
  intro key
  simpa [isPlainChar_of_isKeyChar key] using isPlainChar_of_isSpace space

theorem isNameChar_of_isKeyChar (key : isKeyChar c = true) : isNameChar c = true := by
  simp only [isKeyChar, Bool.or_eq_true, beq_iff_eq] at key
  rcases key with (alphanumeric | rfl) | rfl
  · exact isNameChar_of_isAlphanum alphanumeric
  · rfl
  · rfl

end Characters

theorem commentLength?_eq (text : List Char) : commentLength? text = blockComment? text := by
  fun_induction blockComment? text with
  | case1 => rfl
  | case2 c rest other ih => rw [commentLength?, ih]; exact other
  | case3 => rfl

/-- What a text that starts with a plain character begins with. -/
theorem lexed_plain {c : Char} (plain : isPlainChar c = true) {rest : List Char} {token : Option Token} {taken : Nat}
    (found : Relaxed.recognise c rest = some (token, taken)) :
    ∃ leaf, token = some leaf ∧ leaf.isLeaf = true ∧
      (Numeric taken rest ∨ ∃ text, name? none (c :: rest) = some (text, taken + 1)) := by
  have other (d : Char) (noPlain : isPlainChar d = false) : c ≠ d := by
    rintro rfl
    simp [plain] at noPlain
  cases lexed_of_recognise found with
  | space space => simp [isPlainChar_of_isSpace space] at plain
  | lineComment opening => exact absurd opening (other '/' rfl)
  | blockComment opening => exact absurd opening (other '/' rfl)
  | string quote => exact absurd quote (not_or.mpr ⟨other '"' rfl, other '\'' rfl⟩)
  | number first numeric => exact ⟨_, rfl, rfl, .inl numeric⟩
  | name named isName => rcases isName with rfl | rfl <;> exact ⟨_, rfl, rfl, .inr ⟨_, named⟩⟩
  | punctuation mark =>
    unfold punctuation? at mark
    split at mark <;> cases mark <;> cases plain

/-- Behind a value no word comes. -/
theorem no_plain_of_read {b final : Builder} {c : Char} {rest : List Char} (complete : b.Complete)
    (read : b.read (c :: rest) = some final) : isPlainChar c = false := by
  rw [← Bool.not_eq_true]
  intro plain
  obtain ⟨tokens, cut, _⟩ := Option.bind_eq_some_iff.mp read
  obtain ⟨token, taken, others, found, _⟩ := recognise_of_tokens? cut
  obtain ⟨leaf, rfl, isLeaf, _⟩ := lexed_plain plain found
  simp [b.read_token found, complete.step_leaf isLeaf] at read

theorem stops_of_read {b final : Builder} {rest : List Char} (complete : b.Complete) (read : b.read rest = some final) :
    Stops rest := by
  cases rest with
  | nil => rfl
  | cons c rest =>
    have noPlain := no_plain_of_read complete read
    rw [stops_cons, ← Bool.not_eq_true]
    intro key
    simp [isPlainChar_of_isKeyChar key] at noPlain

theorem recognise_unsigned {c : Char} (starts : c.isDigit = true ∨ c = '.') (rest : List Char) :
    Relaxed.recognise c rest =
      (unsigned? (c :: rest)).map fun unit => (some (.scalar unit.1), unit.2 - 1) := by
  have plain : isPlainChar c = true := by
    rcases starts with digit | rfl
    · simp [isPlainChar, isKeyChar, Char.isAlphanum, digit]
    · rfl
  have noSpace : ¬ isSpace c = true := fun space => by simp [isPlainChar_of_isSpace space] at plain
  have other (d : Char) (noDigit : d.isDigit = false) (noPoint : d ≠ '.') : c ≠ d := by
    rintro rfl
    simp [noDigit, noPoint] at starts
  unfold Relaxed.recognise
  rw [if_neg noSpace, if_neg (other '/' rfl (by decide)),
    if_neg (not_or.mpr ⟨other '"' rfl (by decide), other '\'' rfl (by decide)⟩),
    if_neg (not_or.mpr ⟨other '+' rfl (by decide), other '-' rfl (by decide)⟩), if_pos starts]

theorem recognise_number {c : Char} (starts : (c.isDigit = true ∨ c = '.') ∨ c = '+' ∨ c = '-') {rest : List Char}
    (delimits : Delimits rest) (word : List Char) :
    Relaxed.recognise c (word ++ rest) = Relaxed.recognise c word := by
  rcases starts with unsigned | rfl | rfl
  · rw [recognise_unsigned unsigned, recognise_unsigned unsigned, ← List.cons_append, delimits.unsigned?_append]
  · exact congrArg Relaxed.scalar (delimits.signed?_append false word)
  · exact congrArg Relaxed.scalar (delimits.signed?_append true word)

/-- A word that does not start with a digit is read as a name. -/
theorem recognise_bare {c : Char} {word : List Char} (key : ∀ d ∈ c :: word, isKeyChar d = true)
    (noDigit : c.isDigit = false) {rest : List Char} (ended : rest.head?.all (!isNameChar ·) = true) :
    Relaxed.recognise c (word ++ rest) = some (some (.word (String.ofList (c :: word))), word.length) := by
  have first := key c List.mem_cons_self
  have noSpace : ¬ isSpace c = true := fun space => by simp [isKeyChar_of_isSpace space] at first
  have other (d : Char) (noKey : isKeyChar d = false) : c ≠ d := isKeyChar_ne first noKey
  have noEscape : '\\' ∉ c :: word := fun member => by cases key _ member
  have named := name?_append (fun d member => isNameChar_of_isKeyChar (key d member)) noEscape ended
  have starts : (isLetter c || c = '$' || c = '_' || c = '\\') = true := by
    simp only [isKeyChar, Char.isAlphanum, noDigit, Bool.or_false, Bool.or_eq_true, beq_iff_eq] at first
    rcases first with (alpha | rfl) | rfl
    · simp [isLetter, alpha]
    · rfl
    · rfl
  unfold Relaxed.recognise
  rw [if_neg noSpace, if_neg (other '/' rfl), if_neg (not_or.mpr ⟨other '"' rfl, other '\'' rfl⟩),
    if_neg (not_or.mpr ⟨other '+' rfl, other '-' rfl⟩),
    if_neg (not_or.mpr ⟨by simp [noDigit], other '.' rfl⟩), if_pos starts, ← List.cons_append, named]
  simp

/-- A unit of number or name characters does not reach over a delimiter. -/
theorem le_of_delimits {p : Char → Bool} (isChar : ∀ c, p c = true → isNumberChar c = true ∨ isNameChar c = true)
    (word : List Char) {rest : List Char} {taken : Nat} (delimits : Delimits rest)
    (fits : taken ≤ (word ++ rest).length) (chars : ((word ++ rest).take taken).all p = true) :
    taken ≤ word.length := by
  refine Nat.le_of_not_lt fun beyond => ?_
  cases rest with
  | nil =>
    rw [List.append_nil] at fits
    omega
  | cons c rest =>
    have member : c ∈ (word ++ c :: rest).take taken := by
      rw [List.mem_take_iff_getElem]
      exact ⟨word.length, by simp; omega, by simp⟩
    exact delimits.head_ne (isChar c (List.all_eq_true.mp chars c member)) rest rfl

/-- A word with a point or a sign in it is not one name. -/
theorem not_spans_of_mark {c : Char} {word : List Char} (plain : ∀ d ∈ word, isPlainChar d = true)
    (first : isKeyChar c = true) (noDigit : c.isDigit = false) (marked : ¬ ∀ d ∈ word, isKeyChar d = true)
    (rest : List Char) {token : Token} : Relaxed.recognise c (word ++ rest) ≠ some (some token, word.length) := by
  have split := List.takeWhile_append_dropWhile (p := isKeyChar) (l := word)
  cases left : word.dropWhile isKeyChar with
  | nil => exact absurd (List.dropWhile_eq_nil_iff.mp left) marked
  | cons d more =>
    have noKey : isKeyChar d = false := by
      have stop := List.head?_dropWhile_not isKeyChar word
      rw [left] at stop
      exact stop
    have isPlain := plain d (by rw [← split, left]; simp)
    have noName : isNameChar d = false := by
      simp only [isPlainChar, noKey, Bool.false_or, Bool.or_eq_true, beq_iff_eq] at isPlain
      rcases isPlain with (rfl | rfl) | rfl <;> rfl
    have key : ∀ e ∈ c :: word.takeWhile isKeyChar, isKeyChar e = true :=
      List.forall_mem_cons.mpr ⟨first, fun e member => List.all_eq_true.mp List.all_takeWhile e member⟩
    have ended : (d :: (more ++ rest)).head?.all (!isNameChar ·) = true := by simp [noName]
    have named := recognise_bare key noDigit ended
    intro found
    rw [← split, left, List.append_assoc, List.cons_append, named] at found
    simp at found

theorem plain_leaf {c : Char} {word : List Char} (plain : ∀ d ∈ c :: word, isPlainChar d = true) : Leaf c word where
  spans := by
    intro b final rest place delimits read
    obtain ⟨tokens, cut, _⟩ := Option.bind_eq_some_iff.mp read
    obtain ⟨token, taken, others, found, _⟩ := recognise_of_tokens? cut
    obtain ⟨leaf, rfl, isLeaf, unit⟩ := lexed_plain (plain c List.mem_cons_self) found
    have notBeyond : taken ≤ word.length := by
      rcases unit with numeric | ⟨text, named⟩
      · exact le_of_delimits (fun _ => .inl) word delimits numeric.fits numeric.chars
      · obtain ⟨fits, chars, _⟩ := name?_chars named
        exact Nat.le_of_succ_le_succ (le_of_delimits (fun _ => .inr) (c :: word) delimits fits chars)
    -- what is left of the word would have to stand behind a value
    have notShort : word.length ≤ taken := by
      refine Nat.le_of_not_lt fun short => ?_
      rw [b.read_token found, place.step_leaf isLeaf, Option.bind_assoc] at read
      obtain ⟨value, _, read⟩ := Option.bind_eq_some_iff.mp read
      obtain ⟨next, put, read⟩ := Option.bind_eq_some_iff.mp read
      have left : (word ++ rest).drop taken = word[taken] :: (word.drop (taken + 1) ++ rest) := by
        rw [List.drop_append_of_le_length notBeyond, List.drop_eq_getElem_cons short, List.cons_append]
      rw [left] at read
      have noPlain := no_plain_of_read (Builder.put_complete put) read
      simp [plain word[taken] (List.mem_cons_of_mem c (List.getElem_mem short))] at noPlain
    exact ⟨leaf, isLeaf, by rw [found, Nat.le_antisymm notBeyond notShort]⟩
  same := by
    intro token rest other delimits delimitsOther found
    by_cases starts : (c.isDigit = true ∨ c = '.') ∨ c = '+' ∨ c = '-'
    · rw [recognise_number starts delimits] at found
      rw [recognise_number starts delimitsOther, found]
    · simp only [not_or, Bool.not_eq_true] at starts
      obtain ⟨⟨noDigit, noPoint⟩, noPlus, noMinus⟩ := starts
      have first : isKeyChar c = true := by
        simpa [isPlainChar, noPoint, noPlus, noMinus] using plain c List.mem_cons_self
      by_cases key : ∀ d ∈ word, isKeyChar d = true
      · have bare : ∀ d ∈ c :: word, isKeyChar d = true := List.forall_mem_cons.mpr ⟨first, key⟩
        rw [recognise_bare bare noDigit delimits.noName] at found
        rw [recognise_bare bare noDigit delimitsOther.noName, found]
      · exact absurd found (not_spans_of_mark (List.forall_mem_cons.mp plain).2 first noDigit key _)

theorem recognise_quote {quote : Char} (isQuote : quote = '\'' ∨ quote = '"') (rest : List Char) :
    Relaxed.recognise quote rest =
      (string? quote none rest).map fun unit => (some (.text (String.ofList unit.1)), unit.2) := by
  rcases isQuote with rfl | rfl <;> rfl

theorem Quoted.length_of_string? (string : Quoted) {rest text : List Char} {taken : Nat}
    (read : string? string.quote none (string.content ++ [string.quote] ++ rest) = some (text, taken)) :
    taken = (string.content ++ [string.quote]).length := by
  have length := quotedLength?_content string.isQuote string.fits rest
  have found : quotedLength? string.quote (string.content ++ [string.quote] ++ rest) =
      some (string.content ++ [string.quote]).length := by
    simpa using length
  have same := quotedLength?_of_string? string.isQuote.symm read (.inr (by rw [found]; rfl))
  exact Option.some.inj (same.symm.trans found)

theorem Quoted.string?_append (string : Quoted) {rest text : List Char} {taken : Nat}
    (read : string? string.quote none (string.content ++ [string.quote] ++ rest) = some (text, taken))
    (other : List Char) :
    string? string.quote none (string.content ++ [string.quote] ++ other) =
      some (text, (string.content ++ [string.quote]).length) := by
  have length := string.length_of_string? read
  subst length
  have kept := string?_local read other
  rwa [List.take_left] at kept

/-- The token of a string is the same whatever follows. -/
theorem Quoted.recognise_append (string : Quoted) (rest : List Char) :
    Relaxed.recognise string.quote (string.content ++ [string.quote] ++ rest) =
      (string? string.quote none (string.content ++ [string.quote])).map fun unit =>
        (some (.text (String.ofList unit.1)), (string.content ++ [string.quote]).length) := by
  rw [recognise_quote string.isQuote]
  cases inside : string? string.quote none (string.content ++ [string.quote] ++ rest) with
  | some unit =>
    have alone := string.string?_append inside []
    have length := string.length_of_string? inside
    rw [List.append_nil] at alone
    rw [alone, Option.map_some, Option.map_some, length]
  | none =>
    have alone : string? string.quote none (string.content ++ [string.quote]) = none := by
      rw [Option.eq_none_iff_forall_ne_some]
      intro unit found
      have kept := string.string?_append (by rwa [List.append_nil]) rest
      rw [inside] at kept
      cases kept
    rw [alone]
    rfl

theorem Quoted.leaf (string : Quoted) : Leaf string.quote (string.content ++ [string.quote]) where
  spans := by
    intro b final rest place delimits read
    obtain ⟨tokens, cut, _⟩ := Option.bind_eq_some_iff.mp read
    obtain ⟨token, taken, others, found, _⟩ := recognise_of_tokens? cut
    rw [string.recognise_append, Option.map_eq_some_iff] at found
    obtain ⟨unit, alone, same⟩ := found
    exact ⟨_, rfl, by rw [string.recognise_append, alone]; rfl⟩
  same := by
    intro token rest other _ _ found
    rw [string.recognise_append] at found ⊢
    exact found

end ThemeSense.Script
