import ThemeSense.Color.Basic
import ThemeSense.Proofs.Text.Trimming

namespace ThemeSense

namespace Hex

/-- The digits in the order of their values. -/
def digits : List Char :=
  "0123456789abcdef".toList

/-- The place of a digit among the digits, in whatever case it is written. -/
def ordinal (c : Char) : Nat :=
  digits.idxOf c.toLower

def IsHex (c : Char) : Prop :=
  c.toLower ∈ digits

instance (c : Char) : Decidable (IsHex c) :=
  inferInstanceAs (Decidable (c.toLower ∈ digits))

/-- A digit counts for its place among the digits, and nothing else is a digit. -/
theorem value?_eq (c : Char) : value? c = if IsHex c then some (ordinal c) else none := by
  by_cases small : c.toNat < 128
  · have ascii : ∀ n < 128, value? (Char.ofNat n) =
        if IsHex (Char.ofNat n) then some (ordinal (Char.ofNat n)) else none := by decide +kernel
    simpa using ascii c.toNat small
  · have above (d : Char) (most : d.toNat < 128) : ¬ c ≤ d := fun le => small (Nat.lt_of_le_of_lt le most)
    have lower : c.toLower = c := dif_neg fun range => above 'Z' (by decide) range.2
    have none : ¬ IsHex c := by
      have ascii : digits.all (·.toNat < 128) = true := by decide
      rw [IsHex, lower]
      intro member
      exact small (of_decide_eq_true (List.all_eq_true.mp ascii c member))
    rw [value?, if_neg fun range => above '9' (by decide) range.2, if_neg fun range => above 'f' (by decide) range.2,
      if_neg fun range => above 'F' (by decide) range.2, if_neg none]

theorem value?_of_isHex {c : Char} (hex : IsHex c) : value? c = some (ordinal c) := by
  rw [value?_eq, if_pos hex]

theorem isHex_iff {c : Char} : IsHex c ↔ isDigit c = true := by
  rw [isDigit, value?_eq]
  by_cases hex : IsHex c <;> simp [hex]

theorem ordinal_lt {c : Char} (hex : IsHex c) : ordinal c < 16 :=
  List.idxOf_lt_length_of_mem hex

end Hex

open Hex

namespace Rgba

/-- The channels of a color are the values of its digits, two by two. A short form has every digit twice. -/
inductive Spells : List Char → Rgba → Prop
  | six {r r' g g' b b' : Char} {color : Rgba} (red : color.red.toNat = 16 * ordinal r + ordinal r')
      (green : color.green.toNat = 16 * ordinal g + ordinal g') (blue : color.blue.toNat = 16 * ordinal b + ordinal b')
      (alpha : color.alpha.toNat = 255) : Spells [r, r', g, g', b, b'] color
  | eight {r r' g g' b b' a a' : Char} {color : Rgba} (red : color.red.toNat = 16 * ordinal r + ordinal r')
      (green : color.green.toNat = 16 * ordinal g + ordinal g') (blue : color.blue.toNat = 16 * ordinal b + ordinal b')
      (alpha : color.alpha.toNat = 16 * ordinal a + ordinal a') : Spells [r, r', g, g', b, b', a, a'] color
  | short {digits : List Char} {color : Rgba} (few : digits.length = 3 ∨ digits.length = 4)
      (long : Spells (digits.flatMap fun d => [d, d]) color) : Spells digits color

/-- What the digits of a color are read as. A wrong digit counts before a wrong number of them. -/
inductive DigitsRead : List Char → Except ColorError Rgba → Prop
  | wrongDigit {before after : List Char} {c : Char} (hex : ∀ d ∈ before, IsHex d) (other : ¬ IsHex c) :
      DigitsRead (before ++ c :: after) (.error (.invalidHex c))
  | wrongLength {digits : List Char} (hex : ∀ d ∈ digits, IsHex d) (wrong : digits.length ∉ [3, 4, 6, 8]) :
      DigitsRead digits (.error (.invalidLength digits.length))
  | color {digits : List Char} {color : Rgba} (hex : ∀ d ∈ digits, IsHex d) (spells : Spells digits color) :
      DigitsRead digits (.ok color)

theorem paired_toNat {high low : Nat} (highDigit : high < 16) (lowDigit : low < 16) :
    (paired high low).toNat = 16 * high + low := by
  rw [paired, UInt8.toNat_ofNat']
  omega

theorem doubled_eq (digit : Nat) : doubled digit = paired digit digit := by
  rw [doubled, paired]
  congr 1
  omega

theorem hexDigits_of_isHex {digits : List Char} (hex : ∀ d ∈ digits, IsHex d) :
    hexDigits digits = .ok (digits.map ordinal) := by
  induction digits with
  | nil => rfl
  | cons c digits ih =>
    obtain ⟨first, others⟩ := List.forall_mem_cons.mp hex
    rw [hexDigits, value?_of_isHex first, ih others]
    rfl

theorem hexDigits_of_wrong {before after : List Char} {c : Char} (hex : ∀ d ∈ before, IsHex d) (other : ¬ IsHex c) :
    hexDigits (before ++ c :: after) = .error (.invalidHex c) := by
  induction before with
  | nil => rw [List.nil_append, hexDigits, value?_eq, if_neg other]
  | cons d before ih =>
    obtain ⟨first, others⟩ := List.forall_mem_cons.mp hex
    rw [List.cons_append, hexDigits, value?_of_isHex first, ih others]
    rfl

theorem exists_wrong_digit {digits : List Char} (wrong : ¬ ∀ d ∈ digits, IsHex d) :
    ∃ before c after, digits = before ++ c :: after ∧ (∀ d ∈ before, IsHex d) ∧ ¬ IsHex c := by
  induction digits with
  | nil => exact absurd (List.forall_mem_nil _) wrong
  | cons c digits ih =>
    by_cases hex : IsHex c
    · have later : ¬ ∀ d ∈ digits, IsHex d := fun others => wrong (List.forall_mem_cons.mpr ⟨hex, others⟩)
      obtain ⟨before, d, after, rfl, first, other⟩ := ih later
      exact ⟨c :: before, d, after, rfl, List.forall_mem_cons.mpr ⟨hex, first⟩, other⟩
    · exact ⟨[], c, digits, rfl, List.forall_mem_nil _, hex⟩

theorem ofDigits_of_length {values : List Nat} (wrong : values.length ∉ [3, 4, 6, 8]) :
    ofDigits values = .error (.invalidLength values.length) := by
  unfold ofDigits
  split
  · exact absurd (by simp) wrong
  · exact absurd (by simp) wrong
  · exact absurd (by simp) wrong
  · exact absurd (by simp) wrong
  · rfl

/-- A short form is read as the long one with every digit twice. -/
theorem ofDigits_short {values : List Nat} (few : values.length = 3 ∨ values.length = 4) :
    ofDigits values = ofDigits (values.flatMap fun value => [value, value]) := by
  rcases few with three | four
  · obtain ⟨r, g, b, rfl⟩ := List.length_eq_three.mp three
    simp [ofDigits, doubled_eq]
  · rcases values with _ | ⟨r, rest⟩
    · cases four
    · obtain ⟨g, b, a, rfl⟩ := List.length_eq_three.mp (Nat.succ.inj four)
      simp [ofDigits, doubled_eq]

theorem spells_of_long {digits : List Char} (hex : ∀ d ∈ digits, IsHex d)
    (many : digits.length = 6 ∨ digits.length = 8) :
    ∃ color, ofDigits (digits.map ordinal) = .ok color ∧ Spells digits color := by
  have pair {high low : Char} (highIn : high ∈ digits) (lowIn : low ∈ digits) :
      (paired (ordinal high) (ordinal low)).toNat = 16 * ordinal high + ordinal low :=
    paired_toNat (ordinal_lt (hex high highIn)) (ordinal_lt (hex low lowIn))
  rcases digits with _ | ⟨r, _ | ⟨r', _ | ⟨g, rest⟩⟩⟩
  · simp at many
  · simp at many
  · simp at many
  simp only [List.length_cons, Nat.reduceEqDiff] at many
  rcases many with three | five
  · obtain ⟨g', b, b', rfl⟩ := List.length_eq_three.mp three
    exact ⟨_, rfl, .six (pair (by simp) (by simp)) (pair (by simp) (by simp)) (pair (by simp) (by simp)) rfl⟩
  · rcases rest with _ | ⟨g', _ | ⟨b, rest⟩⟩
    · simp at five
    · simp at five
    simp only [List.length_cons, Nat.reduceEqDiff] at five
    obtain ⟨b', a, a', rfl⟩ := List.length_eq_three.mp five
    exact ⟨_, rfl, .eight (pair (by simp) (by simp)) (pair (by simp) (by simp)) (pair (by simp) (by simp))
      (pair (by simp) (by simp))⟩

theorem length_twice (digits : List Char) : (digits.flatMap fun d => [d, d]).length = 2 * digits.length := by
  induction digits with
  | nil => rfl
  | cons d digits ih =>
    rw [List.flatMap_cons, List.length_append, ih, List.length_cons, List.length_cons, List.length_cons,
      List.length_nil]
    omega

theorem spells_of_length {digits : List Char} (hex : ∀ d ∈ digits, IsHex d) (length : digits.length ∈ [3, 4, 6, 8]) :
    ∃ color, ofDigits (digits.map ordinal) = .ok color ∧ Spells digits color := by
  by_cases few : digits.length = 3 ∨ digits.length = 4
  · have hexTwice : ∀ d ∈ digits.flatMap fun d => [d, d], IsHex d := by
      intro d member
      obtain ⟨e, inside, twice⟩ := List.mem_flatMap.mp member
      obtain rfl : d = e := by simpa using twice
      exact hex d inside
    have many : (digits.flatMap fun d => [d, d]).length = 6 ∨ (digits.flatMap fun d => [d, d]).length = 8 := by
      rw [length_twice]
      omega
    obtain ⟨color, read, spells⟩ := spells_of_long hexTwice many
    refine ⟨color, ?_, .short few spells⟩
    rw [ofDigits_short (by simpa using few), ← read, List.map_flatMap, List.flatMap_map]
    rfl
  · refine spells_of_long hex ?_
    simp only [List.mem_cons, List.not_mem_nil, or_false] at length
    omega

theorem ofHex_ok_iff {digits : List Char} (hex : ∀ d ∈ digits, IsHex d) :
    (∃ color, ofHex digits = .ok color) ↔ digits.length ∈ [3, 4, 6, 8] := by
  rw [ofHex, hexDigits_of_isHex hex, Except.bind]
  constructor
  · rintro ⟨color, read⟩
    by_contra wrong
    rw [ofDigits_of_length (by rwa [List.length_map])] at read
    cases read
  · intro length
    obtain ⟨color, read, _⟩ := spells_of_length hex length
    exact ⟨color, read⟩

theorem digitsRead_ofHex (digits : List Char) : DigitsRead digits (ofHex digits) := by
  by_cases hex : ∀ d ∈ digits, IsHex d
  · rw [ofHex, hexDigits_of_isHex hex, Except.bind]
    by_cases length : digits.length ∈ [3, 4, 6, 8]
    · obtain ⟨color, read, spells⟩ := spells_of_length hex length
      rw [read]
      exact .color hex spells
    · rw [ofDigits_of_length (by rwa [List.length_map]), List.length_map]
      exact .wrongLength hex length
  · obtain ⟨before, c, after, rfl, first, other⟩ := exists_wrong_digit hex
    rw [ofHex, hexDigits_of_wrong first other]
    exact .wrongDigit first other

/-- Reads a color: digits after a hash sign, or what `css` takes for another notation. -/
def parseBy (css : List Char → Option Rgba) (text : String) : Except ColorError Rgba :=
  match Text.trim text.toList with
  | [] => .error .empty
  | '#' :: digits => ofHex digits
  | cs =>
    match css cs with
    | some color => .ok color
    | none => .error .notCss

theorem parse_eq : parse = parseBy Css.parse? := rfl

/-- A hash sign and digits, with blanks around them. -/
structure Hashed (digits : List Char) (text : String) : Prop where
  around : Text.Around ('#' :: digits) text.toList
  last : ∀ c ∈ digits.getLast?, isBlank c = false

theorem Hashed.parseBy_eq {digits : List Char} {text : String} (hashed : Hashed digits text)
    (css : List Char → Option Rgba) : parseBy css text = ofHex digits := by
  have bare : Text.Bare ('#' :: digits) := by
    refine ⟨by simp; rfl, fun c last => ?_⟩
    rcases digits.eq_nil_or_concat with rfl | ⟨front, d, rfl⟩
    · obtain rfl : '#' = c := by simpa using last
      rfl
    · exact hashed.last c (by simpa [List.getLast?_cons] using last)
  rw [parseBy, hashed.around.trim_eq, bare.trim_eq]
  rfl

theorem Hashed.parse_eq {digits : List Char} {text : String} (hashed : Hashed digits text) :
    parse text = ofHex digits :=
  hashed.parseBy_eq Css.parse?

/-- The same digits, each in one case or the other, and all else the same. -/
def SameDigits : List Char → List Char → Prop :=
  List.Forall₂ fun c d => c = d ∨ IsHex c ∧ d.toLower = c.toLower

theorem hexDigits_of_sameDigits {digits others : List Char} (same : SameDigits digits others) :
    hexDigits digits = hexDigits others := by
  induction same with
  | nil => rfl
  | @cons c d _ _ here _ ih =>
    rcases here with rfl | ⟨hex, case⟩
    · rw [hexDigits, hexDigits, ih]
    · have hexOther : IsHex d := by rwa [IsHex, case]
      have sameValue : ordinal d = ordinal c := by rw [ordinal, ordinal, case]
      rw [hexDigits, hexDigits, value?_of_isHex hex, value?_of_isHex hexOther, sameValue, ih]

/-- All channels in digits, also that of an opaque color. -/
def longText (color : Rgba) : String :=
  String.ofList ('#' :: [color.red, color.green, color.blue, color.alpha].flatMap hexPair)

theorem hexText_eq (color : Rgba) : color.hexText =
    if color.alpha = 255 then String.ofList ('#' :: [color.red, color.green, color.blue].flatMap hexPair)
    else color.longText := by
  rw [hexText, longText]
  split <;> simp

theorem hexDigits_hexPair (c : UInt8) (rest : List Char) :
    hexDigits (hexPair c ++ rest) = (hexDigits rest).map fun values => c.toNat / 16 :: c.toNat % 16 :: values := by
  have digit : ∀ n < 16, value? (Nat.digitChar n).toUpper = some n := by decide +kernel
  have bound := c.toNat_lt
  rw [hexPair, List.cons_append, hexDigits, digit _ (by omega), List.cons_append, hexDigits, digit _ (by omega),
    List.nil_append]
  cases hexDigits rest <;> rfl

theorem hexDigits_pairs (channels : List UInt8) :
    hexDigits (channels.flatMap hexPair) = .ok (channels.flatMap fun c => [c.toNat / 16, c.toNat % 16]) := by
  induction channels with
  | nil => rfl
  | cons c channels ih =>
    rw [List.flatMap_cons, hexDigits_hexPair, ih]
    rfl

theorem isHex_of_mem_hexPair {c : UInt8} {d : Char} (member : d ∈ hexPair c) : IsHex d := by
  have digit : ∀ n < 16, IsHex (Nat.digitChar n).toUpper := by decide +kernel
  have bound := c.toNat_lt
  simp only [hexPair, List.mem_cons, List.not_mem_nil, or_false] at member
  rcases member with rfl | rfl
  · exact digit _ (by omega)
  · exact digit _ (by omega)

theorem hashed_of_isHex {digits : List Char} (hex : ∀ d ∈ digits, IsHex d) :
    Hashed digits (String.ofList ('#' :: digits)) := by
  refine ⟨by rw [String.toList_ofList]; exact .refl _, fun c last => ?_⟩
  exact isBlank_of_isAlphanum (isAlphanum_of_hex (isHex_iff.mp (hex c (List.mem_of_getLast? last))))

/-- Channels that are written in pairs of digits are read as these pairs. -/
theorem parse_pairs (channels : List UInt8) : parse (String.ofList ('#' :: channels.flatMap hexPair)) =
    ofDigits (channels.flatMap fun c => [c.toNat / 16, c.toNat % 16]) := by
  have hex : ∀ d ∈ channels.flatMap hexPair, IsHex d := by
    intro d member
    obtain ⟨c, _, inPair⟩ := List.mem_flatMap.mp member
    exact isHex_of_mem_hexPair inPair
  rw [(hashed_of_isHex hex).parse_eq, ofHex, hexDigits_pairs]
  rfl

theorem paired_halves (c : UInt8) : paired (c.toNat / 16) (c.toNat % 16) = c := by
  rw [paired, Nat.div_add_mod]
  exact UInt8.ofNat_toNat

theorem parse_longText (color : Rgba) : parse color.longText = .ok color := by
  rw [longText, parse_pairs]
  simp [ofDigits, paired_halves]

theorem parse_hexText (color : Rgba) : parse color.hexText = .ok color := by
  rw [hexText_eq]
  split
  · next full =>
    rw [parse_pairs]
    simp [ofDigits, paired_halves, ← full]
  · exact color.parse_longText

/-- Digits after a hash sign are read exactly. The outcome is that of the first rule that applies, no channel is out
of range, the case of the digits does not matter, and a color that is written in digits is read back. -/
theorem digits_read_exactly :
    (∀ digits text, Hashed digits text → DigitsRead digits (parse text)) ∧
      (∀ high low, IsHex high → IsHex low →
        ∃ h l, value? high = some h ∧ value? low = some l ∧ 17 * h ≤ 255 ∧ 16 * h + l ≤ 255) ∧
      (∀ digits others text other, Hashed digits text → Hashed others other → SameDigits digits others →
        parse text = parse other) ∧
      ∀ color : Rgba, parse color.hexText = .ok color ∧ parse color.longText = .ok color := by
  refine ⟨fun digits text hashed => ?_, fun high low highDigit lowDigit => ?_,
    fun digits others text other hashed hashedOther same => ?_,
    fun color => ⟨color.parse_hexText, color.parse_longText⟩⟩
  · rw [hashed.parse_eq]
    exact digitsRead_ofHex digits
  · have highBound := ordinal_lt highDigit
    have lowBound := ordinal_lt lowDigit
    exact ⟨_, _, value?_of_isHex highDigit, value?_of_isHex lowDigit, by omega, by omega⟩
  · rw [hashed.parse_eq, hashedOther.parse_eq, ofHex, ofHex, hexDigits_of_sameDigits same]

/-- A wrong digit counts before the wrong number of digits, blanks around a short color do not count, and neither
does the case of its digits. -/
theorem digits_read_exactly_among_blanks :
    Hashed "1234é".toList "#1234é" ∧ DigitsRead "1234é".toList (parse "#1234é") ∧
      parse "#1234é" = .error (.invalidHex 'é') ∧ IsHex 'F' ∧ IsHex 'a' ∧
      (∃ h l, value? 'F' = some h ∧ value? 'a' = some l ∧ 17 * h ≤ 255 ∧ 16 * h + l ≤ 255) ∧
      Hashed "F0a8".toList "\t#F0a8\u2003" ∧ Hashed "f0A8".toList "#f0A8" ∧ SameDigits "F0a8".toList "f0A8".toList ∧
      parse "\t#F0a8\u2003" = parse "#f0A8" ∧ parse "#f0A8" = .ok ⟨255, 0, 170, 136⟩ := by
  obtain ⟨reads, bounds, cases, _⟩ := digits_read_exactly
  have last {digits : List Char} (solid : digits.getLast?.all (!isBlank ·) = true) :
      ∀ c ∈ digits.getLast?, isBlank c = false := by
    simpa only [Option.all_eq_true, Bool.not_eq_true', Option.mem_def] using solid
  have wrong : Hashed "1234é".toList "#1234é" := ⟨.refl _, last rfl⟩
  have between : Hashed "F0a8".toList "\t#F0a8\u2003" :=
    ⟨⟨['\t'], ['\u2003'], List.forall_mem_singleton.mpr rfl, List.forall_mem_singleton.mpr rfl, rfl⟩, last rfl⟩
  have alone : Hashed "f0A8".toList "#f0A8" := ⟨.refl _, last rfl⟩
  have same : SameDigits "F0a8".toList "f0A8".toList :=
    .cons (by decide) (.cons (by decide) (.cons (by decide) (.cons (by decide) .nil)))
  exact ⟨wrong, reads _ _ wrong, rfl, by decide, by decide, bounds _ _ (by decide) (by decide), between, alone, same,
    cases _ _ _ _ between alone same, rfl⟩

end Rgba

end ThemeSense
