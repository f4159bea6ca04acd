import ThemeSense.Proofs.Script.Parts
import ThemeSense.Proofs.Script.Scanner

namespace ThemeSense.Script

open Text (utf8 firstByte laterBytes Shows AsciiOnly)

theorem isAsciiBlank_ascii : AsciiOnly isAsciiBlank := by
  intro c blank
  rcases isAsciiBlank_iff.mp blank with rfl | rfl | rfl | rfl | rfl <;> decide

theorem isKeyChar_ascii : AsciiOnly isKeyChar := by
  intro c key
  simp only [isKeyChar, Bool.or_eq_true, beq_iff_eq] at key
  rcases key with (alphanumeric | rfl) | rfl
  · rw [isAlphanum_iff] at alphanumeric
    simp only [UInt32.le_iff_toNat_le] at alphanumeric
    have code : c.toNat = c.val.toNat := rfl
    rcases alphanumeric with (upper | lower) | digit
    · have last : 'Z'.val.toNat = 90 := rfl
      omega
    · have last : 'z'.val.toNat = 122 := rfl
      omega
    · have last : '9'.val.toNat = 57 := rfl
      omega
  · decide
  · decide

/-- A place that is found by bytes and a count of characters up to it move together. -/
theorem map_shift {found counted : Option Nat} {base bytes chars : Nat} {size later : Nat → Nat}
    (same : found.map (· + base) = counted.map size) (grows : ∀ count, later (count + chars) = size count + bytes) :
    (found.map (· + bytes)).map (· + base) = (counted.map (· + chars)).map later := by
  cases counted with
  | none =>
    rw [Option.map_none, Option.map_eq_none_iff] at same
    rw [same]
    rfl
  | some count =>
    obtain ⟨place, rfl, reached⟩ := Option.map_eq_some_iff.mp same
    simp only [Option.map_some, grows, ← reached, Option.some_inj]
    omega

section Strings

variable {quote : Char}

/-- The bytes of longer characters are none that a string could end at. -/
theorem closing?_wide (ascii : quote.toNat < 128) {front : List UInt8} (wide : ∀ b ∈ front, 128 ≤ b.toNat)
    (rest : List UInt8) :
    closing? quote.toUInt8 (front ++ rest) = (closing? quote.toUInt8 rest).map (· + front.length) := by
  induction front with
  | nil => simp
  | cons b front ih =>
    obtain ⟨here, later⟩ := List.forall_mem_cons.mp wide
    rw [List.cons_append, closing?,
      if_neg (Text.ne_of_wide here (by decide)), if_neg (Text.ne_of_wide here (by decide)),
      if_neg (Text.ne_of_wide here ascii), ih later, Option.map_map]
    rfl

theorem closing?_char (ascii : quote.toNat < 128) {c : Char} (noLineEnd : c ≠ '\n') (noEscape : c ≠ '\\')
    (noQuote : c ≠ quote) (rest : List Char) :
    closing? quote.toUInt8 (utf8 (c :: rest)) = (closing? quote.toUInt8 (utf8 rest)).map (· + c.utf8Size) := by
  have size := Text.length_laterBytes c
  rw [Text.utf8_cons, closing?, if_neg (mt (Text.firstByte_eq_iff (by decide)).mp noLineEnd),
    if_neg (mt (Text.firstByte_eq_iff (by decide)).mp noEscape), if_neg (mt (Text.firstByte_eq_iff ascii).mp noQuote),
    closing?_wide ascii (Text.wide_laterBytes c), Option.map_map, ← size]
  rfl

theorem closing?_escape (ascii : quote.toNat < 128) (c : Char) (rest : List Char) :
    closing? quote.toUInt8 (utf8 ('\\' :: c :: rest)) =
      (closing? quote.toUInt8 (utf8 rest)).map (· + (1 + c.utf8Size)) := by
  have size := Text.length_laterBytes c
  have backslash : utf8 ('\\' :: c :: rest) = '\\'.toUInt8 :: firstByte c :: (laterBytes c ++ utf8 rest) := by
    rw [Text.utf8_cons, Text.firstByte_of_ascii (by decide), Text.laterBytes_of_ascii (by decide), Text.utf8_cons]
    rfl
  rw [backslash, closing?, if_neg (by decide), if_pos rfl, List.drop_one, List.tail_cons,
    closing?_wide ascii (Text.wide_laterBytes c), Option.map_map]
  congr 1
  funext count
  simp only [Function.comp_apply]
  omega

/-- The closing quote is found by bytes where it is found by characters. -/
theorem closing?_utf8 (isQuote : quote = '\'' ∨ quote = '"') (text : List Char) :
    (closing? quote.toUInt8 (utf8 text)).map (· + 1) =
      (quotedLength? quote text).map fun count => Text.bytes (text.take count) := by
  have ascii : quote.toNat < 128 := by rcases isQuote with rfl | rfl <;> decide
  fun_induction quotedLength? quote text with
  | case1 => rw [Text.utf8_nil, closing?]; rfl
  | case2 c rest ih =>
    rw [closing?_escape ascii]
    refine map_shift ih fun count => ?_
    have escape : '\\'.utf8Size = 1 := rfl
    rw [List.take_succ_cons, List.take_succ_cons, Text.bytes_cons, Text.bytes_cons, escape]
    omega
  | case3 rest =>
    rw [Text.utf8_cons, Text.firstByte_of_ascii (by decide), closing?, if_pos rfl]
    rfl
  | case4 rest noEscape noLineEnd =>
    have escape : quote ≠ '\\' := by rcases isQuote with rfl | rfl <;> decide
    rw [Text.utf8_cons, closing?, if_neg (mt (Text.firstByte_eq_iff (by decide)).mp noLineEnd),
      if_neg (mt (Text.firstByte_eq_iff (by decide)).mp escape), if_pos ((Text.firstByte_eq_iff ascii).mpr rfl)]
    have size := Text.utf8Size_of_ascii ascii
    simp [Text.bytes_cons, size]
  | case5 c rest noEscape noLineEnd noQuote ih =>
    by_cases escape : c = '\\'
    · subst escape
      cases rest with
      | nil =>
        rw [Text.utf8_cons, Text.firstByte_of_ascii (by decide), Text.laterBytes_of_ascii (by decide), closing?,
          if_neg (by decide), if_pos rfl, Text.utf8_nil, List.append_nil, List.drop_nil, closing?]
        rfl
      | cons d rest => exact absurd rfl (noEscape d rest rfl)
    · rw [closing?_char ascii noLineEnd escape noQuote]
      refine map_shift ih fun count => ?_
      rw [List.take_succ_cons, Text.bytes_cons, Nat.add_comm]

theorem closing?_of_quotedLength? (isQuote : quote = '\'' ∨ quote = '"') {rest : List Char} {count : Nat}
    (closed : quotedLength? quote rest = some count) :
    ∃ content, rest.take count = content ++ [quote] ∧
      closing? quote.toUInt8 (utf8 rest) = some (Text.bytes content) := by
  have size : quote.utf8Size = 1 := by rcases isQuote with rfl | rfl <;> rfl
  obtain ⟨content, _, taken⟩ := content_of_quotedLength? closed
  have found := closing?_utf8 isQuote rest
  rw [closed] at found
  obtain ⟨place, atPlace, same⟩ := Option.map_eq_some_iff.mp found
  simp only [taken, Text.bytes_append, Text.bytes_cons, size, Text.bytes_nil] at same
  exact ⟨content, taken, by rw [atPlace, Nat.succ.inj same]⟩

end Strings

section Comments

variable {d : Char} {needle : List Char}

theorem indexOf?_wide (ascii : d.toNat < 128) {front : List UInt8} (wide : ∀ b ∈ front, 128 ≤ b.toNat)
    (rest : List UInt8) :
    indexOf? (d :: needle) (front ++ rest) = (indexOf? (d :: needle) rest).map (· + front.length) := by
  induction front with
  | nil => simp
  | cons b front ih =>
    obtain ⟨here, later⟩ := List.forall_mem_cons.mp wide
    have absent : ¬ Shows (b :: (front ++ rest)) 0 (d :: needle) := fun shows =>
      Text.ne_of_wide here ascii (Option.some.inj (getElem?_of_shows shows))
    rw [List.cons_append, indexOf?, if_neg absent, ih later, Option.map_map]
    rfl

theorem indexOf?_here (ascii : ∀ e ∈ d :: needle, e.toNat < 128) {text : List Char} (here : d :: needle <+: text) :
    indexOf? (d :: needle) (utf8 text) = some 0 := by
  obtain ⟨rest, rfl⟩ := here
  have shows := (Text.shows_utf8 ascii [] (d :: needle ++ rest)).mpr (List.prefix_append _ _)
  rw [List.cons_append, Text.utf8_cons, indexOf?]
  exact if_pos (by rwa [← Text.utf8_cons])

theorem indexOf?_later (ascii : ∀ e ∈ d :: needle, e.toNat < 128) {c : Char} {rest : List Char}
    (absent : ¬ d :: needle <+: c :: rest) :
    indexOf? (d :: needle) (utf8 (c :: rest)) = (indexOf? (d :: needle) (utf8 rest)).map (· + c.utf8Size) := by
  have size := Text.length_laterBytes c
  have hidden : ¬ Shows (utf8 (c :: rest)) 0 (d :: needle) :=
    mt (Text.shows_utf8 ascii [] (c :: rest)).mp absent
  rw [Text.utf8_cons] at hidden
  rw [Text.utf8_cons, indexOf?, if_neg hidden, indexOf?_wide (ascii d List.mem_cons_self) (Text.wide_laterBytes c),
    Option.map_map, ← size]
  rfl

/-- The end of a block comment is found by bytes where it is found by characters. -/
theorem indexOf?_block (text : List Char) :
    (indexOf? ['*', '/'] (utf8 text)).map (· + 2) =
      (commentLength? text).map fun count => Text.bytes (text.take count) := by
  have ascii : ∀ e ∈ ['*', '/'], e.toNat < 128 := by simp
  fun_induction commentLength? text with
  | case1 rest =>
    have here : indexOf? ['*', '/'] (utf8 ('*' :: '/' :: rest)) = some 0 := indexOf?_here ascii ⟨rest, rfl⟩
    rw [here]
    rfl
  | case2 c rest goesOn ih =>
    have absent : ¬ ['*', '/'] <+: c :: rest := by
      rintro ⟨more, same⟩
      obtain ⟨star, slash⟩ := List.cons.inj same
      exact goesOn more star.symm slash.symm
    rw [indexOf?_later ascii absent]
    refine map_shift ih fun count => ?_
    rw [List.take_succ_cons, Text.bytes_cons, Nat.add_comm]
  | case3 => rfl

theorem indexOf?_lineEnd (text : List Char) :
    (indexOf? ['\n'] (utf8 text)).getD (Text.bytes text) = Text.bytes (text.takeWhile (· ≠ '\n')) := by
  have ascii : ∀ e ∈ ['\n'], e.toNat < 128 := by simp
  induction text with
  | nil => rfl
  | cons c text ih =>
    by_cases lineEnd : c = '\n'
    · subst lineEnd
      have here : indexOf? ['\n'] (utf8 ('\n' :: text)) = some 0 := indexOf?_here ascii ⟨text, rfl⟩
      rw [here, List.takeWhile_cons_of_neg (by simp)]
      rfl
    · have absent : ¬ ['\n'] <+: c :: text := by
        rintro ⟨more, same⟩
        exact lineEnd (List.cons.inj same).1.symm
      rw [indexOf?_later ascii absent, List.takeWhile_cons_of_pos (by simpa using lineEnd), Text.bytes_cons,
        Text.bytes_cons, ← ih]
      cases indexOf? ['\n'] (utf8 text) with
      | none => rfl
      | some count => exact Nat.add_comm _ _

theorem find?_utf8 (before rest : List Char) (needle : List Char) :
    find? (utf8 (before ++ rest)) needle (Text.bytes before) =
      (indexOf? needle (utf8 rest)).map (Text.bytes before + ·) := by
  rw [find?, Text.drop_utf8]

theorem bytes_concat (before : List Char) {c : Char} (narrow : c.utf8Size = 1) :
    Text.bytes before + 1 = Text.bytes (before ++ [c]) := by
  rw [Text.bytes_append, Text.bytes_cons, narrow]
  rfl

theorem shows_next (before : List Char) {c d : Char} (narrow : c.utf8Size = 1)
    (ascii : d.toNat < 128) (rest : List Char) :
    Shows (utf8 (before ++ c :: rest)) (Text.bytes before + 1) [d] ↔ rest.head? = some d := by
  have whole : before ++ c :: rest = before ++ [c] ++ rest := by simp
  rw [whole, bytes_concat before narrow, Text.shows_utf8 (by simpa using ascii)]
  cases rest with
  | nil => simp
  | cons e rest => simp [eq_comm]

theorem commentEnd?_line (before rest : List Char) :
    commentEnd? (utf8 (before ++ '/' :: '/' :: rest)) (Text.bytes before) =
      some (Text.bytes (before ++ '/' :: '/' :: rest.takeWhile (· ≠ '\n'))) := by
  have line : Shows (utf8 (before ++ '/' :: '/' :: rest)) (Text.bytes before + 1) ['/'] :=
    (shows_next before rfl (by decide) _).mpr rfl
  have lineEnd := indexOf?_lineEnd ('/' :: '/' :: rest)
  rw [commentEnd?, if_pos line, find?_utf8, Text.length_utf8, Text.bytes_append, Text.bytes_append, Option.some_inj]
  cases found : indexOf? ['\n'] (utf8 ('/' :: '/' :: rest)) <;>
    (rw [found] at lineEnd; exact congrArg (Text.bytes before + ·) lineEnd)

theorem find?_block (before rest : List Char) :
    (find? (utf8 (before ++ '/' :: '*' :: rest)) ['*', '/'] (Text.bytes before + 2)).map (· + 2) =
      (commentLength? rest).map fun count => Text.bytes (before ++ '/' :: '*' :: rest.take count) := by
  have place : Text.bytes before + 2 = Text.bytes (before ++ ['/', '*']) := by
    rw [Text.bytes_append]
    rfl
  have whole : before ++ '/' :: '*' :: rest = before ++ ['/', '*'] ++ rest := by simp
  have joined (count : Nat) : Text.bytes (before ++ '/' :: '*' :: rest.take count) =
      Text.bytes (before ++ ['/', '*']) + Text.bytes (rest.take count) := by
    rw [← Text.bytes_append, List.append_assoc]
    rfl
  have ending := congrArg (Option.map (Text.bytes (before ++ ['/', '*']) + ·)) (indexOf?_block rest)
  rw [Option.map_map, Option.map_map] at ending
  rw [whole, place, find?_utf8, Option.map_map]
  simp only [joined]
  exact ending

theorem commentEnd?_block (before rest : List Char) :
    commentEnd? (utf8 (before ++ '/' :: '*' :: rest)) (Text.bytes before) =
      (commentLength? rest).map fun count => Text.bytes (before ++ '/' :: '*' :: rest.take count) := by
  have noLine : ¬ Shows (utf8 (before ++ '/' :: '*' :: rest)) (Text.bytes before + 1) ['/'] := by
    rw [shows_next before rfl (by decide)]
    simp
  rw [commentEnd?, if_neg noLine, find?_block]

/-- A run of characters of an ASCII class is a run of bytes of the class. -/
theorem runEnd_utf8 {byte : UInt8 → Bool} {member : Char → Bool} (first : ∀ c, byte (firstByte c) = member c)
    (later : ∀ c, member c = true → ∀ b ∈ laterBytes c, byte b = true) (before rest : List Char) :
    runEnd (utf8 (before ++ rest)) byte (Text.bytes before) = Text.bytes (before ++ rest.takeWhile member) := by
  rw [runEnd, Text.drop_utf8, Text.length_takeWhile_utf8 first later, Text.bytes_append]

theorem runEnd_lineEnd (before rest : List Char) :
    runEnd (utf8 (before ++ rest)) (· ≠ '\n'.toUInt8) (Text.bytes before) =
      Text.bytes (before ++ rest.takeWhile (· ≠ '\n')) := by
  refine runEnd_utf8 (fun c => ?_) (fun c _ b later => ?_) before rest
  · simp only [ne_eq, decide_not, Text.firstByte_eq_iff (d := '\n') (by decide)]
  · simpa using Text.ne_of_wide (Text.wide_laterBytes c b later) (by decide)

theorem runEnd_key (before rest : List Char) :
    runEnd (utf8 (before ++ rest)) (fun b => isKeyChar (Char.ofUInt8 b)) (Text.bytes before) =
      Text.bytes (before ++ rest.takeWhile isKeyChar) := by
  refine runEnd_utf8 (fun c => isKeyChar_ascii.firstByte c) (fun c key b later => ?_) before rest
  rw [Text.laterBytes_of_ascii (isKeyChar_ascii c key)] at later
  cases later

end Comments

section Skipping

theorem dropTrivia_lineComment (text : List Char) :
    dropTrivia .lineComment text = skipTrivia (text.dropWhile (· ≠ '\n')) := by
  induction text with
  | nil => rfl
  | cons c text ih =>
    by_cases lineEnd : c = '\n'
    · subst lineEnd
      rfl
    · rw [dropTrivia, if_neg lineEnd, List.dropWhile_cons_of_pos (by simpa using lineEnd), ih]

theorem dropTrivia_blockComment (text : List Char) :
    dropTrivia .blockComment text = (commentLength? text).elim [] fun count => skipTrivia (text.drop count) := by
  fun_induction commentLength? text with
  | case1 rest => rfl
  | case2 c rest goesOn ih =>
    rw [dropTrivia, ih]
    · cases commentLength? rest <;> rfl
    · exact goesOn
  | case3 => rfl

theorem skipTrivia_cons {c : Char} {rest : List Char} (noLine : ¬ ['/', '/'] <+: c :: rest)
    (noBlock : ¬ ['/', '*'] <+: c :: rest) :
    skipTrivia (c :: rest) = if isAsciiBlank c then skipTrivia rest else c :: rest := by
  rw [skipTrivia, dropTrivia]
  · rfl
  · rintro more rfl rfl
    exact noLine ⟨more, rfl⟩
  · rintro more rfl rfl
    exact noBlock ⟨more, rfl⟩

theorem getElem?_utf8 (before : List Char) (c : Char) (rest : List Char) :
    (utf8 (before ++ c :: rest))[Text.bytes before]? = some (firstByte c) := by
  have first : ((utf8 (before ++ c :: rest)).drop (Text.bytes before))[0]? = some (firstByte c) := by
    rw [Text.drop_utf8, Text.utf8_cons]
    rfl
  rwa [List.getElem?_drop, Nat.add_zero] at first

theorem getElem?_utf8_end (text : List Char) : (utf8 text)[Text.bytes text]? = none := by
  rw [List.getElem?_eq_none_iff, Text.length_utf8]

theorem skipTurn_line (before : List Char) {rest : List Char} (line : ['/', '/'] <+: rest) :
    skipTurn (utf8 (before ++ rest)) (Text.bytes before) =
      .again (Text.bytes (before ++ rest.takeWhile (· ≠ '\n'))) := by
  rw [skipTurn, if_pos ((Text.shows_utf8 (by simp) before rest).mpr line), runEnd_lineEnd]

theorem skipTurn_block (before rest : List Char) :
    skipTurn (utf8 (before ++ '/' :: '*' :: rest)) (Text.bytes before) =
      match commentLength? rest with
      | some count => .again (Text.bytes (before ++ '/' :: '*' :: rest.take count))
      | none => .done (Text.bytes (before ++ '/' :: '*' :: rest)) := by
  have noLine : ¬ Shows (utf8 (before ++ '/' :: '*' :: rest)) (Text.bytes before) ['/', '/'] := by
    rw [Text.shows_utf8 (by simp)]
    simp
  have block : Shows (utf8 (before ++ '/' :: '*' :: rest)) (Text.bytes before) ['/', '*'] := by
    rw [Text.shows_utf8 (by simp)]
    exact ⟨rest, rfl⟩
  have ending := find?_block before rest
  rw [skipTurn, if_neg noLine, if_pos block]
  cases length : commentLength? rest with
  | none =>
    rw [length, Option.map_none, Option.map_eq_none_iff] at ending
    rw [ending, Text.length_utf8]
  | some count =>
    rw [length] at ending
    obtain ⟨stop, found, same⟩ := Option.map_eq_some_iff.mp ending
    rw [found]
    exact congrArg Skip.again same

theorem skipTurn_cons (before : List Char) {c : Char} {rest : List Char}
    (noLine : ¬ ['/', '/'] <+: c :: rest) (noBlock : ¬ ['/', '*'] <+: c :: rest) :
    skipTurn (utf8 (before ++ c :: rest)) (Text.bytes before) =
      if isAsciiBlank c then .again (Text.bytes (before ++ [c])) else .done (Text.bytes before) := by
  rw [skipTurn, if_neg (mt (Text.shows_utf8 (by simp) before _).mp noLine),
    if_neg (mt (Text.shows_utf8 (by simp) before _).mp noBlock), getElem?_utf8]
  simp only [isAsciiBlank_ascii.firstByte c]
  by_cases blank : isAsciiBlank c = true
  · have size := Text.utf8Size_of_ascii (isAsciiBlank_ascii c blank)
    rw [if_pos blank, if_pos blank, Text.bytes_append, Text.bytes_cons, size]
    rfl
  · rw [if_neg blank, if_neg blank]

/-- Between two characters a turn of skipping passes over a blank or a comment, or it is the last one. -/
theorem skipTurn_utf8 (before rest : List Char) :
    (∃ first left, rest = first ++ left ∧ first ≠ [] ∧ skipTrivia rest = skipTrivia left ∧
        skipTurn (utf8 (before ++ rest)) (Text.bytes before) = .again (Text.bytes (before ++ first))) ∨
      ∃ passed, rest = passed ++ skipTrivia rest ∧
        skipTurn (utf8 (before ++ rest)) (Text.bytes before) = .done (Text.bytes (before ++ passed)) := by
  by_cases line : ['/', '/'] <+: rest
  · have turns := skipTurn_line before line
    obtain ⟨tail, rfl⟩ := line
    have skipped : skipTrivia (['/', '/'] ++ tail) = skipTrivia ((['/', '/'] ++ tail).dropWhile (· ≠ '\n')) :=
      dropTrivia_lineComment tail
    exact .inl ⟨_, _, List.takeWhile_append_dropWhile.symm, by simp, skipped, turns⟩
  by_cases block : ['/', '*'] <+: rest
  · obtain ⟨tail, rfl⟩ := block
    have turns := skipTurn_block before tail
    have skipped : skipTrivia ('/' :: '*' :: tail) =
        (commentLength? tail).elim [] fun count => skipTrivia (tail.drop count) :=
      dropTrivia_blockComment tail
    cases length : commentLength? tail with
    | none =>
      rw [length] at turns skipped
      exact .inr ⟨'/' :: '*' :: tail, skipped ▸ (List.append_nil _).symm, turns⟩
    | some count =>
      rw [length] at turns skipped
      exact .inl ⟨'/' :: '*' :: tail.take count, tail.drop count, by simp, by simp, skipped, turns⟩
  cases rest with
  | nil =>
    have turns : skipTurn (utf8 before) (Text.bytes before) = .done (Text.bytes before) := by
      have nothing (c d : Char) : ¬ Shows (utf8 before) (Text.bytes before) [c, d] := fun shows => by
        have inBounds := Text.lt_of_shows shows (by simp)
        rw [Text.length_utf8] at inBounds
        omega
      rw [skipTurn, if_neg (nothing _ _), if_neg (nothing _ _), getElem?_utf8_end]
    exact .inr ⟨[], rfl, by simpa using turns⟩
  | cons c rest =>
    have skipped := skipTrivia_cons line block
    have turns := skipTurn_cons before line block
    by_cases blank : isAsciiBlank c = true
    · rw [if_pos blank] at skipped turns
      exact .inl ⟨[c], rest, rfl, by simp, skipped, turns⟩
    · rw [if_neg blank] at skipped turns
      exact .inr ⟨[], skipped.symm, by rw [List.append_nil, turns]⟩

/-- What is skipped by bytes is what is skipped by characters. -/
theorem skip_utf8 (before rest : List Char) :
    ∃ passed, rest = passed ++ skipTrivia rest ∧
      skip (utf8 (before ++ rest)) (Text.bytes before) = Text.bytes (before ++ passed) := by
  -- a turn passes over a whole comment, so the induction is on the length of the text
  induction length : rest.length using Nat.strongRecOn generalizing before rest with
  | ind n ih =>
    rcases skipTurn_utf8 before rest with ⟨first, left, rfl, nonempty, skipped, turns⟩ | ⟨passed, same, turns⟩
    · have shorter : left.length < n := by
        have positive := List.length_pos_iff.mpr nonempty
        rw [List.length_append] at length
        omega
      obtain ⟨passed, same, later⟩ := ih _ shorter (before ++ first) left rfl
      refine ⟨first ++ passed, by rw [skipped, List.append_assoc, ← same], ?_⟩
      rw [skip_again turns, ← List.append_assoc, later, List.append_assoc]
    · exact ⟨passed, same, skip_done turns⟩

/-- Behind space and comments the bytes show an ASCII text just where it stands there. -/
theorem skip_then {src before rest : List Char} (here : src = before ++ rest) {text : List Char}
    (ascii : ∀ d ∈ text, d.toNat < 128) :
    ∃ passed, rest = passed ++ skipTrivia rest ∧ skip (utf8 src) (Text.bytes before) = Text.bytes (before ++ passed) ∧
      (Shows (utf8 src) (Text.bytes (before ++ passed)) text ↔ text <+: skipTrivia rest) := by
  obtain ⟨passed, split, skipped⟩ := skip_utf8 before rest
  refine ⟨passed, split, by rw [here, skipped], ?_⟩
  have whole : src = before ++ passed ++ skipTrivia rest := by rw [here, List.append_assoc, ← split]
  rw [whole, Text.shows_utf8 ascii]

/-- An arrow is found by bytes where it is found by characters, and so is what it leads to. -/
theorem bodyAt?_utf8 {src before rest : List Char} (here : src = before ++ '(' :: rest) :
    (arrowBody? rest = none ∧ bodyAt? (utf8 src) (Text.bytes before) = none) ∨
      ∃ header body, arrowBody? rest = some body ∧ rest = header ++ body ∧
        bodyAt? (utf8 src) (Text.bytes before) = some (Text.bytes (before ++ '(' :: header)) := by
  have atParen : src = before ++ ['('] ++ rest := by rw [here, List.append_assoc]; rfl
  have paren : Text.bytes before + 1 = Text.bytes (before ++ ['(']) := by rw [Text.bytes_append]; rfl
  have closeAscii : ∀ d ∈ [')'], d.toNat < 128 := by simp
  have arrowAscii : ∀ d ∈ ['=', '>'], d.toNat < 128 := by simp
  obtain ⟨inParens, split, toClose, atClose⟩ := skip_then atParen closeAscii
  rw [bodyAt?, paren, toClose]
  unfold arrowBody?
  split
  · next left closed =>
    have behind : src = before ++ ['('] ++ inParens ++ [')'] ++ left := by rw [atParen, split, closed]; simp
    have close : Text.bytes (before ++ ['('] ++ inParens) + 1 = Text.bytes (before ++ ['('] ++ inParens ++ [')']) := by
      rw [Text.bytes_append (_ ++ inParens)]
      rfl
    obtain ⟨beforeArrow, splitArrow, toArrow, atArrow⟩ := skip_then behind arrowAscii
    have closes := atClose.mpr ⟨left, closed.symm⟩
    rw [close, toArrow]
    split
    · next more arrow =>
      have beyond : src = before ++ ['('] ++ inParens ++ [')'] ++ beforeArrow ++ ['=', '>'] ++ more := by
        rw [behind, splitArrow, arrow]
        simp
      have arrowEnd : Text.bytes (before ++ ['('] ++ inParens ++ [')'] ++ beforeArrow) + 2 =
          Text.bytes (before ++ ['('] ++ inParens ++ [')'] ++ beforeArrow ++ ['=', '>']) := by
        rw [Text.bytes_append (_ ++ beforeArrow)]
        rfl
      obtain ⟨afterArrow, splitBody, toBody, _⟩ := skip_then beyond closeAscii
      refine .inr ⟨inParens ++ [')'] ++ beforeArrow ++ ['=', '>'] ++ afterArrow, _, rfl, ?_, ?_⟩
      · calc rest = inParens ++ ')' :: (beforeArrow ++ '=' :: '>' :: (afterArrow ++ skipTrivia more)) := by
              rw [← splitBody, ← arrow, ← splitArrow, ← closed, ← split]
          _ = inParens ++ [')'] ++ beforeArrow ++ ['=', '>'] ++ afterArrow ++ skipTrivia more := by simp
      · rw [if_pos ⟨closes, atArrow.mpr ⟨more, arrow.symm⟩⟩, arrowEnd, toBody]
        simp
    · next noArrow =>
      refine .inl ⟨rfl, if_neg fun both => ?_⟩
      obtain ⟨more, same⟩ := atArrow.mp both.2
      exact noArrow more same.symm
  · next noClose =>
    refine .inl ⟨rfl, if_neg fun both => ?_⟩
    obtain ⟨left, same⟩ := atClose.mp both.1
    exact noClose left same.symm

end Skipping

section Exported

theorem cutTrivia_eq (text : List Char) : cutTrivia text = .ok (skipTrivia text) := by
  obtain ⟨passed, split, skipped⟩ := skip_utf8 [] text
  exact cutFrom_eq split skipped

theorem cutDirective_eq (directive text : List Char) :
    cutDirective directive text = .ok (dropDirective directive text) := by
  cases found : Text.after? directive text with
  | none => rw [cutDirective, dropDirective, found]
  | some rest =>
    rw [cutDirective, dropDirective, found]
    exact cutTrivia_eq _

/-- The exported expression is cut out by bytes as it is by characters. -/
theorem cutExpression_eq (script : List Char) : cutExpression script = (exportedExpression script).mapError .error := by
  simp only [cutExpression, cutTrivia_eq, cutDirective_eq, bind, Except.bind, exportedExpression]
  generalize dropDirective "\"use strict\"".toList (dropDirective "'use strict'".toList (skipTrivia script)) = text
  cases Text.after? "module.exports".toList text with
  | some rest =>
    dsimp only
    cases Text.after? ['='] (Text.trimStart rest) <;> rfl
  | none =>
    dsimp only
    cases Text.after? "export default".toList text <;> rfl

end Exported

end ThemeSense.Script
