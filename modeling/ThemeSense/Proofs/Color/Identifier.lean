import ThemeSense.Color.Basic
import ThemeSense.Proofs.Mention

namespace ThemeSense.Css

section Characters

variable {c : Char} {rest cs : List Char}

theorem ne_of_isNameChar {d : Char} (name : ColorUse.isNameChar c = true) (other : ColorUse.isNameChar d = false) :
    c ≠ d := by
  rintro rfl
  rw [name] at other
  cases other

theorem isSpace_of_isNameChar (name : ColorUse.isNameChar c = true) : isSpace c = false := by
  simp only [isSpace, Bool.or_eq_false_iff, beq_eq_false_iff_ne]
  refine ⟨⟨⟨⟨?_, ?_⟩, ?_⟩, ?_⟩, ?_⟩ <;> exact ne_of_isNameChar name rfl

theorem startsEscape_cons (noEscape : c ≠ '\\') : startsEscape (c :: rest) = false := by
  unfold startsEscape
  split
  · rename_i same
    exact absurd (List.cons.inj same).1 noEscape
  · rename_i same
    exact absurd (List.cons.inj same).1 noEscape
  · rfl

theorem isNameChar_of_startsName (noEscape : c ≠ '\\') (starts : startsName (c :: rest) = true) :
    isNameChar c = true := by
  unfold startsName at starts
  split at starts
  · rename_i same
    rw [(List.cons.inj same).1]
    rfl
  · rw [startsEscape_cons noEscape] at starts
    have first : isNameStart c = true := by simpa using starts
    simp [isNameChar, first]

/-- A name without escapes is a run of its characters. -/
theorem nameAt_plain (plain : ∀ c ∈ cs, c ≠ '\\' ∧ c ≠ '\x00') :
    nameAt cs = (cs.takeWhile isNameChar, (cs.takeWhile isNameChar).length) := by
  induction cs with
  | nil => simp [nameAt]
  | cons c cs ih =>
    obtain ⟨⟨noEscape, noNull⟩, others⟩ := List.forall_mem_cons.mp plain
    rw [nameAt, if_neg (by simp [startsEscape_cons noEscape]), ih others]
    by_cases inName : isNameChar c = true <;> simp [inName, noNull]

end Characters

section Letters

variable {c : Char} {rest cs : List Char}

theorem ne_of_isAlpha {d : Char} (letter : c.isAlpha = true) (other : d.isAlpha = false) : c ≠ d := by
  rintro rfl
  rw [letter] at other
  cases other

theorem isDigit_of_isAlpha (letter : c.isAlpha = true) : c.isDigit = false := by
  have letters : c.isAlpha =
      (decide ('A'.val ≤ c.val ∧ c.val ≤ 'Z'.val) || decide ('a'.val ≤ c.val) && decide (c.val ≤ 'z'.val)) :=
    rfl
  have digits : c.isDigit = (decide ('0'.val ≤ c.val) && decide (c.val ≤ '9'.val)) := rfl
  have least : 'A'.val ≤ c.val := by
    simp only [letters, Bool.or_eq_true, Bool.and_eq_true, decide_eq_true_eq] at letter
    rcases letter with upper | lower
    · exact upper.1
    · exact UInt32.le_trans (by decide) lower.1
  have above : ¬ c.val ≤ '9'.val := fun most => absurd (UInt32.le_trans least most) (by decide)
  rw [digits, decide_eq_false above, Bool.and_false]

theorem isNameStart_of_isAlpha (letter : c.isAlpha = true) : isNameStart c = true := by
  simp [isNameStart, letter]

theorem startsNumber_letter (letter : c.isAlpha = true) : startsNumber (c :: rest) = false := by
  unfold startsNumber
  split
  · next same => exact absurd (List.cons.inj same).1 (ne_of_isAlpha letter rfl)
  · next same =>
    obtain ⟨rfl, rfl⟩ := List.cons.inj same
    rw [if_neg (not_or.mpr ⟨ne_of_isAlpha letter rfl, ne_of_isAlpha letter rfl⟩), isDigit_of_isAlpha letter]
  · rfl

theorem startsName_letter (letter : c.isAlpha = true) : startsName (c :: rest) = true := by
  unfold startsName
  split
  · next same => exact absurd (List.cons.inj same).1 (ne_of_isAlpha letter rfl)
  · simp [isNameStart_of_isAlpha letter]

/-- A word of letters is one identifier. -/
theorem tokens?_letters (nonempty : cs ≠ []) (letters : ∀ c ∈ cs, c.isAlpha = true) :
    tokens? cs = some [.ident (String.ofList cs)] := by
  obtain ⟨c, rest, rfl⟩ := List.exists_cons_of_ne_nil nonempty
  have letter := letters c List.mem_cons_self
  have noSpace : ¬ isSpace c = true := by
    simp only [isSpace, Bool.or_eq_true, beq_iff_eq, not_or]
    refine ⟨⟨⟨⟨?_, ?_⟩, ?_⟩, ?_⟩, ?_⟩ <;> exact ne_of_isAlpha letter rfl
  have plain : ∀ d ∈ c :: rest, d ≠ '\\' ∧ d ≠ '\x00' := fun d member =>
    ⟨ne_of_isAlpha (letters d member) rfl, ne_of_isAlpha (letters d member) rfl⟩
  have whole : (c :: rest).takeWhile isNameChar = c :: rest :=
    List.takeWhile_eq_self_iff.mpr fun d member => by simp [isNameChar, isNameStart_of_isAlpha (letters d member)]
  have found : recognise c rest = some (some (.ident (String.ofList (c :: rest))), rest.length) := by
    rw [recognise, if_neg noSpace, if_neg fun both => ne_of_isAlpha letter rfl both.1, startsNumber_letter letter,
      startsName_letter letter, nameAt_plain plain, whole]
    simp
  rw [tokens?, found]
  simp [tokens?]

end Letters

/-- The tokens with which a color can start. -/
def Token.startsColor : Token → Bool
  | .ident _ | .function _ | .hash _ => true
  | _ => false

theorem numericAt_fst (cs : List Char) : (numericAt cs).1.startsColor = false ∧ (numericAt cs).1 ≠ .space := by
  unfold numericAt
  dsimp only
  split
  · exact ⟨rfl, by simp⟩
  · split
    · exact ⟨rfl, by simp⟩
    · exact ⟨rfl, by simp⟩

/-- What a text of letters, digits, dots, underscores and hyphens starts with: an identifier, which is as
long as it can be, or a number or a hyphen. -/
theorem recognise_name {c : Char} {rest : List Char} (name : ∀ d ∈ c :: rest, ColorUse.isNameChar d = true)
    {token : Option Token} {taken : Nat} (found : recognise c rest = some (token, taken)) :
    (∃ other, token = some other ∧ other ≠ .space ∧ other.startsColor = false) ∨
      isNameChar c = true ∧ token = some (.ident (String.ofList ((c :: rest).takeWhile isNameChar))) ∧
        taken = (rest.takeWhile isNameChar).length := by
  have first := name c (by simp)
  have plain : ∀ d ∈ c :: rest, d ≠ '\\' ∧ d ≠ '\x00' := fun d member =>
    ⟨ne_of_isNameChar (name d member) rfl, ne_of_isNameChar (name d member) rfl⟩
  have noCall : ((c :: rest).drop ((c :: rest).takeWhile isNameChar).length).head? ≠ some '(' := by
    intro opened
    exact ne_of_isNameChar (name '(' (List.mem_of_mem_drop (List.mem_of_head? opened))) rfl rfl
  have noSpace : ¬ isSpace c = true := by simp [isSpace_of_isNameChar first]
  have noSlash : c ≠ '/' := ne_of_isNameChar first rfl
  rw [recognise, if_neg noSpace, if_neg fun both => noSlash both.1] at found
  split at found
  · obtain ⟨other, notSpace⟩ := numericAt_fst (c :: rest)
    cases found
    exact .inl ⟨_, rfl, notSpace, other⟩
  · split at found
    · rename_i starts
      have inName := isNameChar_of_startsName (plain c (by simp)).1 starts
      rw [nameAt_plain plain] at found
      dsimp only at found
      rw [if_neg noCall] at found
      cases found
      exact .inr ⟨inName, rfl, by simp [inName]⟩
    · rw [if_neg (ne_of_isNameChar first rfl), if_neg (ne_of_isNameChar first rfl), if_neg (ne_of_isNameChar first rfl),
        if_neg (ne_of_isNameChar first rfl)] at found
      split at found
      · cases found
        exact .inl ⟨_, rfl, by simp, rfl⟩
      · cases found

theorem color_of_other {token : Token} (notSpace : token ≠ .space) (other : token.startsColor = false) (depth : Nat)
    (tokens : List Token) : color depth (token :: tokens) = none := by
  cases depth with
  | zero => rfl
  | succ depth =>
    cases token with
    | ident | function | hash => cases other
    | space => exact absurd rfl notSpace
    | _ => rfl

theorem color_ident (name : String) (depth : Nat) (tokens : List Token) :
    color (depth + 1) (.ident name :: tokens) = (named? name).map (·, tokens) := rfl

theorem isSome_of_named? {name : String} {shade : Shade} (found : named? name = some shade) :
    (namedColor? name).isSome = true := by
  obtain ⟨_, found, _⟩ := Option.map_eq_some_iff.mp found
  obtain ⟨value, named, _⟩ := Option.bind_eq_some_iff.mp found
  rw [named]
  rfl

theorem dropSpace_cons {token : Token} (notSpace : token ≠ .space) (tokens : List Token) :
    Reader.dropSpace (token :: tokens) = token :: tokens := by
  cases token with
  | space => exact absurd rfl notSpace
  | _ => rfl

/-- Nothing but space can be read as space. -/
theorem eq_nil_of_space {cs : List Char} (name : ∀ c ∈ cs, ColorUse.isNameChar c = true) {tokens : List Token}
    (lexed : tokens? cs = some tokens) (space : (Reader.dropSpace tokens).isEmpty = true) : cs = [] := by
  cases cs with
  | nil => rfl
  | cons c rest =>
    rw [tokens?] at lexed
    split at lexed
    · cases lexed
    · rename_i token taken found
      obtain ⟨others, _, rfl⟩ := Option.map_eq_some_iff.mp lexed
      rcases recognise_name name found with ⟨other, rfl, notSpace, _⟩ | ⟨_, rfl, _⟩
      · rw [Option.toList_some, List.singleton_append, dropSpace_cons notSpace] at space
        cases space
      · cases space

theorem color_dropSpace {depth : Nat} {tokens : List Token} :
    color (depth + 1) tokens = color (depth + 1) (Reader.dropSpace tokens) := by
  fun_induction Reader.dropSpace tokens with
  | case1 rest ih => exact ih
  | case2 => rfl

/-- What is read as a color is one, with nothing but space behind it. -/
theorem color_of_parse? {cs : List Char} {rgba : Rgba} (read : parse? cs = some rgba) :
    ∃ tokens shade unread, tokens? cs = some tokens ∧ color (tokens.length + 1) tokens = some (shade, unread) ∧
      (Reader.dropSpace unread).isEmpty = true := by
  obtain ⟨tokens, lexed, read⟩ := Option.bind_eq_some_iff.mp read
  split at read
  · next name rest start =>
    split at read
    · next space =>
      have isColor : color (tokens.length + 1) tokens = some (.ofRgba rgba, rest) := by
        rw [color_dropSpace, start, color_ident, named?, read]
        rfl
      exact ⟨tokens, _, rest, lexed, isColor, space⟩
    · cases read
  · obtain ⟨⟨shade, unread⟩, isColor, ends⟩ := Option.bind_eq_some_iff.mp read
    dsimp only at ends
    split at ends
    · rename_i space
      exact ⟨tokens, shade, unread, lexed, isColor, space⟩
    · cases ends

/-- A text of letters, digits, dots, underscores and hyphens is a color only if it is the name of one. -/
theorem isSome_namedColor?_of_parse? {cs : List Char} (nonempty : cs ≠ [])
    (name : ∀ c ∈ cs, ColorUse.isNameChar c = true) {rgba : Rgba} (read : parse? cs = some rgba) :
    (namedColor? (String.ofList cs)).isSome = true := by
  obtain ⟨c, rest, rfl⟩ := List.exists_cons_of_ne_nil nonempty
  obtain ⟨tokens, shade, unread, lexed, isColor, space⟩ := color_of_parse? read
  rw [tokens?] at lexed
  split at lexed
  · cases lexed
  · rename_i token taken found
    obtain ⟨others, lexedOthers, rfl⟩ := Option.map_eq_some_iff.mp lexed
    rcases recognise_name name found with ⟨other, rfl, notSpace, notColor⟩ | ⟨inName, rfl, rfl⟩
    · rw [Option.toList_some, List.singleton_append, color_of_other notSpace notColor] at isColor
      cases isColor
    · rw [Option.toList_some, List.singleton_append, color_ident] at isColor
      obtain ⟨_, named, same⟩ := Option.map_eq_some_iff.mp isColor
      cases same
      have nothing := eq_nil_of_space (fun d member => name d (.tail _ (List.mem_of_mem_drop member))) lexedOthers space
      have whole : rest.takeWhile isNameChar = rest :=
        (List.takeWhile_prefix _).eq_of_length_le (List.drop_eq_nil_iff.mp nothing)
      rw [List.takeWhile_cons_of_pos inName, whole] at named
      exact isSome_of_named? named

end ThemeSense.Css
