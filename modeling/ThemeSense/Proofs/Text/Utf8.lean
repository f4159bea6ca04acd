import ThemeSense.Proofs.Text.Offsets

namespace ThemeSense.Text

section Slices

theorem takeBytes_isPrefix (cs : List Char) (count : Nat) : takeBytes cs count <+: cs := by
  induction cs generalizing count with
  | nil => exact List.nil_prefix
  | cons c cs ih =>
    rw [takeBytes]
    split
    · exact List.nil_prefix
    · exact List.cons_prefix_cons.mpr ⟨rfl, ih _⟩

/-- Where the text is long enough, the characters that start before an offset reach it. -/
theorem le_bytes_takeBytes {cs : List Char} {count : Nat} (inside : count ≤ bytes cs) :
    count ≤ bytes (takeBytes cs count) := by
  induction cs generalizing count with
  | nil => exact inside
  | cons c cs ih =>
    rw [bytes_cons] at inside
    have later : count - c.utf8Size ≤ bytes (takeBytes cs (count - c.utf8Size)) := ih (by omega)
    rw [takeBytes]
    split
    · omega
    · rw [bytes_cons]
      omega

theorem takeBytes?_eq_some_iff {cs before : List Char} {count : Nat} (inside : count ≤ bytes cs) :
    takeBytes? cs count = some before ↔ before <+: cs ∧ bytes before = count := by
  constructor
  · intro taken
    unfold takeBytes? at taken
    dsimp only at taken
    split at taken
    · next fits =>
      cases taken
      exact ⟨takeBytes_isPrefix cs count, Nat.le_antisymm fits (le_bytes_takeBytes inside)⟩
    · cases taken
  · rintro ⟨⟨after, rfl⟩, rfl⟩
    exact takeBytes?_append before after

theorem prefix_of_bytes_le {first second cs : List Char} (firstIn : first <+: cs) (secondIn : second <+: cs)
    (le : bytes first ≤ bytes second) : first <+: second := by
  rcases List.prefix_or_prefix_of_prefix firstIn secondIn with shorter | ⟨more, rfl⟩
  · exact shorter
  · rw [bytes_append] at le
    have none : more = [] := bytes_eq_zero.mp (by omega)
    exact ⟨[], by rw [none, List.append_nil, List.append_nil]⟩

theorem slice?_eq_some_iff {cs piece : List Char} {start stop : Nat} :
    slice? cs start stop = some piece ↔
      ∃ before after, cs = before ++ piece ++ after ∧ bytes before = start ∧ bytes (before ++ piece) = stop := by
  constructor
  · intro found
    unfold slice? at found
    split at found
    · next inside =>
      obtain ⟨upTo, taken, found⟩ := Option.bind_eq_some_iff.mp found
      obtain ⟨before, takenBefore, rfl⟩ := Option.map_eq_some_iff.mp found
      obtain ⟨upToIn, upToBytes⟩ := (takeBytes?_eq_some_iff inside.2).mp taken
      obtain ⟨beforeIn, beforeBytes⟩ := (takeBytes?_eq_some_iff (inside.1.trans inside.2)).mp takenBefore
      have shorter : before <+: upTo := prefix_of_bytes_le beforeIn upToIn (by omega)
      obtain ⟨piece, rfl⟩ := shorter
      obtain ⟨after, rfl⟩ := upToIn
      exact ⟨before, after, by simp, beforeBytes, by simpa using upToBytes⟩
    · cases found
  · rintro ⟨before, after, rfl, rfl, rfl⟩
    exact slice?_append before piece after

/-- There is a text between two offsets just where both of them are between characters. -/
theorem exists_slice?_iff {cs : List Char} {start stop : Nat} :
    (∃ piece, slice? cs start stop = some piece) ↔
      start ≤ stop ∧ stop ≤ bytes cs ∧ IsBoundary cs start ∧ IsBoundary cs stop := by
  constructor
  · rintro ⟨piece, found⟩
    obtain ⟨before, after, rfl, rfl, rfl⟩ := slice?_eq_some_iff.mp found
    refine ⟨?_, ?_, ?_, isBoundary_append (before ++ piece) after⟩
    · rw [bytes_append]
      omega
    · rw [bytes_append (before ++ piece)]
      omega
    · rw [List.append_assoc]
      exact isBoundary_append before (piece ++ after)
  · rintro ⟨ordered, _, ⟨before, rest, rfl, rfl⟩, upTo, after, same, rfl⟩
    obtain ⟨piece, rfl⟩ := prefix_of_bytes_le (List.prefix_append before rest) ⟨after, same.symm⟩ ordered
    exact ⟨piece, slice?_eq_some_iff.mpr ⟨before, after, same, rfl, rfl⟩⟩

end Slices

/-- The bytes that encode a text. -/
def utf8 (text : List Char) : List UInt8 :=
  text.flatMap String.utf8EncodeChar

def firstByte (c : Char) : UInt8 :=
  (String.utf8EncodeChar c).headD 0

def laterBytes (c : Char) : List UInt8 :=
  (String.utf8EncodeChar c).tail

theorem utf8EncodeChar_eq (c : Char) : String.utf8EncodeChar c = firstByte c :: laterBytes c := by
  have positive := c.utf8Size_pos
  rw [← String.length_utf8EncodeChar] at positive
  obtain ⟨b, later, same⟩ := List.exists_cons_of_length_pos positive
  rw [firstByte, laterBytes, same]
  rfl

theorem utf8_nil : utf8 [] = [] := rfl

theorem utf8_cons (c : Char) (rest : List Char) : utf8 (c :: rest) = firstByte c :: (laterBytes c ++ utf8 rest) := by
  rw [utf8, List.flatMap_cons, utf8EncodeChar_eq]
  rfl

theorem utf8_append (first second : List Char) : utf8 (first ++ second) = utf8 first ++ utf8 second :=
  List.flatMap_append

theorem length_laterBytes (c : Char) : (laterBytes c).length + 1 = c.utf8Size := by
  rw [← String.length_utf8EncodeChar, utf8EncodeChar_eq, List.length_cons]

theorem length_utf8 (text : List Char) : (utf8 text).length = bytes text := by
  induction text with
  | nil => rfl
  | cons c text ih =>
    have size := length_laterBytes c
    rw [utf8_cons, List.length_cons, List.length_append, ih, bytes_cons]
    omega

/-- Behind a part of the text are the bytes of the other part. -/
theorem drop_utf8 (before rest : List Char) : (utf8 (before ++ rest)).drop (bytes before) = utf8 rest := by
  rw [utf8_append, ← length_utf8, List.drop_left]

section Ascii

variable {c d : Char}

theorem utf8Size_of_ascii (ascii : c.toNat < 128) : c.utf8Size = 1 := by
  have code : c.toNat = c.val.toNat := rfl
  have last : (127 : UInt32).toNat = 127 := rfl
  rw [Char.utf8Size_eq_one_iff, UInt32.le_iff_toNat_le]
  omega

theorem firstByte_of_ascii (ascii : c.toNat < 128) : firstByte c = c.toUInt8 := by
  rw [firstByte, String.utf8EncodeChar_eq_singleton (utf8Size_of_ascii ascii)]
  rfl

theorem laterBytes_of_ascii (ascii : c.toNat < 128) : laterBytes c = [] := by
  rw [laterBytes, String.utf8EncodeChar_eq_singleton (utf8Size_of_ascii ascii)]
  rfl

theorem toNat_toUInt8 (ascii : c.toNat < 128) : c.toUInt8.toNat = c.toNat := by
  have code : c.toNat = c.val.toNat := rfl
  rw [Char.toUInt8, UInt32.toNat_toUInt8]
  omega

theorem toUInt8_inj (ascii : c.toNat < 128) (other : d.toNat < 128) (same : c.toUInt8 = d.toUInt8) : c = d := by
  rw [← Char.toNat_inj, ← toNat_toUInt8 ascii, same, toNat_toUInt8 other]

theorem wide_or (b : UInt8) {mark : UInt8} (wide : 128 ≤ mark.toNat) : 128 ≤ (b ||| mark).toNat := by
  rw [UInt8.toNat_or]
  exact wide.trans Nat.right_le_or

/-- No byte of a longer character is one that stands for a character by itself. -/
theorem wide_of_utf8EncodeChar (long : 128 ≤ c.toNat) : ∀ b ∈ String.utf8EncodeChar c, 128 ≤ b.toNat := by
  have code : c.toNat = c.val.toNat := rfl
  have last : (127 : UInt32).toNat = 127 := rfl
  rcases c.utf8Size_eq with one | two | three | four
  · rw [Char.utf8Size_eq_one_iff, UInt32.le_iff_toNat_le] at one
    omega
  all_goals intro b member
  · rw [String.utf8EncodeChar_eq_cons_cons two] at member
    simp only [List.mem_cons, List.not_mem_nil, or_false] at member
    rcases member with rfl | rfl <;> exact wide_or _ (by decide)
  · rw [String.utf8EncodeChar_eq_cons_cons_cons three] at member
    simp only [List.mem_cons, List.not_mem_nil, or_false] at member
    rcases member with rfl | rfl | rfl <;> exact wide_or _ (by decide)
  · rw [String.utf8EncodeChar_eq_cons_cons_cons_cons four] at member
    simp only [List.mem_cons, List.not_mem_nil, or_false] at member
    rcases member with rfl | rfl | rfl | rfl <;> exact wide_or _ (by decide)

theorem wide_firstByte (long : 128 ≤ c.toNat) : 128 ≤ (firstByte c).toNat :=
  wide_of_utf8EncodeChar long _ (by rw [utf8EncodeChar_eq]; exact List.mem_cons_self)

theorem wide_laterBytes (c : Char) : ∀ b ∈ laterBytes c, 128 ≤ b.toNat := by
  intro b later
  by_cases ascii : c.toNat < 128
  · rw [laterBytes_of_ascii ascii] at later
    cases later
  · have member : b ∈ String.utf8EncodeChar c := by
      rw [utf8EncodeChar_eq]
      exact List.mem_cons_of_mem _ later
    exact wide_of_utf8EncodeChar (by omega) b member

theorem ne_of_wide {b : UInt8} (wide : 128 ≤ b.toNat) (ascii : d.toNat < 128) : b ≠ d.toUInt8 := by
  rintro rfl
  rw [toNat_toUInt8 ascii] at wide
  omega

/-- The first byte of a character tells whether it is a given one of ASCII. -/
theorem firstByte_eq_iff (ascii : d.toNat < 128) : firstByte c = d.toUInt8 ↔ c = d := by
  by_cases short : c.toNat < 128
  · rw [firstByte_of_ascii short]
    exact ⟨toUInt8_inj short ascii, fun same => by rw [same]⟩
  · have first : firstByte c ≠ d.toUInt8 := ne_of_wide (wide_firstByte (by omega)) ascii
    have other : c ≠ d := by
      rintro rfl
      exact short ascii
    simp [first, other]

/-- A class of ASCII characters. -/
def AsciiOnly (member : Char → Bool) : Prop :=
  ∀ c, member c = true → c.toNat < 128

theorem toNat_ofUInt8 (b : UInt8) : (Char.ofUInt8 b).toNat = b.toNat :=
  UInt8.toNat_toUInt32 b

theorem ofUInt8_toUInt8 (ascii : c.toNat < 128) : Char.ofUInt8 c.toUInt8 = c := by
  rw [← Char.toNat_inj, toNat_ofUInt8, toNat_toUInt8 ascii]

theorem ofUInt8_firstByte (ascii : c.toNat < 128) : Char.ofUInt8 (firstByte c) = c := by
  rw [firstByte_of_ascii ascii, ofUInt8_toUInt8 ascii]

theorem toUInt8_ofUInt8 (b : UInt8) : (Char.ofUInt8 b).toUInt8 = b :=
  UInt8.toUInt8_toUInt32 b

theorem AsciiOnly.of_wide {member : Char → Bool} (only : AsciiOnly member) {b : UInt8} (wide : 128 ≤ b.toNat) :
    member (Char.ofUInt8 b) = false := by
  rw [← Bool.not_eq_true]
  intro inside
  have ascii := only _ inside
  rw [toNat_ofUInt8] at ascii
  omega

/-- The first byte of a character tells whether it is in a class of ASCII characters. -/
theorem AsciiOnly.firstByte {member : Char → Bool} (only : AsciiOnly member) (c : Char) :
    member (Char.ofUInt8 (firstByte c)) = member c := by
  by_cases short : c.toNat < 128
  · rw [ofUInt8_firstByte short]
  · have outside : member c = false := by
      rw [← Bool.not_eq_true]
      exact fun inside => short (only c inside)
    rw [only.of_wide (wide_firstByte (by omega)), outside]

end Ascii

/-- A test of bytes that stops where a test of characters stops runs over as much of the text. -/
theorem length_takeWhile_utf8 {byte : UInt8 → Bool} {member : Char → Bool}
    (first : ∀ c, byte (firstByte c) = member c)
    (later : ∀ c, member c = true → ∀ b ∈ laterBytes c, byte b = true) (text : List Char) :
    ((utf8 text).takeWhile byte).length = bytes (text.takeWhile member) := by
  induction text with
  | nil => rfl
  | cons c text ih =>
    rw [utf8_cons, List.takeWhile_cons, List.takeWhile_cons, first]
    cases inside : member c with
    | false => rfl
    | true =>
      have size := length_laterBytes c
      simp only [if_true, List.takeWhile_append_of_pos (later c inside), List.length_cons, List.length_append, ih,
        bytes_cons]
      omega

/-- The bytes from an offset on begin with those of a text in ASCII. -/
def Shows (bytes : List UInt8) (pos : Nat) (text : List Char) : Prop :=
  text.map Char.toUInt8 <+: bytes.drop pos

instance (bytes : List UInt8) (pos : Nat) (text : List Char) : Decidable (Shows bytes pos text) :=
  inferInstanceAs (Decidable (_ <+: _))

theorem prefix_utf8_iff {text : List Char} (ascii : ∀ d ∈ text, d.toNat < 128) (rest : List Char) :
    text.map Char.toUInt8 <+: utf8 rest ↔ text <+: rest := by
  induction text generalizing rest with
  | nil => simp
  | cons d text ih =>
    obtain ⟨here, others⟩ := List.forall_mem_cons.mp ascii
    cases rest with
    | nil => simp [utf8_nil]
    | cons c rest =>
      rw [utf8_cons, List.map_cons, List.cons_prefix_cons, List.cons_prefix_cons, eq_comm, firstByte_eq_iff here,
        eq_comm]
      refine and_congr_right fun same => ?_
      subst same
      rw [laterBytes_of_ascii here, List.nil_append, ih others]

/-- Between two characters the bytes show an ASCII text just where it stands there. -/
theorem shows_utf8 {text : List Char} (ascii : ∀ d ∈ text, d.toNat < 128) (before rest : List Char) :
    Shows (utf8 (before ++ rest)) (bytes before) text ↔ text <+: rest := by
  rw [Shows, drop_utf8, prefix_utf8_iff ascii]

theorem lt_of_shows {bytes : List UInt8} {pos : Nat} {text : List Char} (shows : Shows bytes pos text)
    (nonempty : text ≠ []) : pos < bytes.length := by
  have length := shows.length_le
  have positive : 0 < text.length := List.length_pos_iff.mpr nonempty
  rw [List.length_map, List.length_drop] at length
  omega

end ThemeSense.Text
