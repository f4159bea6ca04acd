import ThemeSense.Proofs.Json.Delimiters
import ThemeSense.Proofs.Json.Reading

namespace ThemeSense.Json.Relaxed

/-- The word is one leaf wherever it is read as a value, and the same one before every delimiter. -/
structure Leaf (c : Char) (word : List Char) : Prop where
  spans : ∀ {b final : Builder} {rest : List Char}, b.TakesValue → Delimits rest →
    b.read (c :: (word ++ rest)) = some final →
    ∃ token, token.isLeaf = true ∧ recognise c (word ++ rest) = some (some token, word.length)
  same : ∀ {token : Token} {rest other : List Char}, Delimits rest → Delimits other →
    recognise c (word ++ rest) = some (some token, word.length) →
    recognise c (word ++ other) = some (some token, word.length)

theorem takesValue_start : Builder.start.TakesValue := .inl rfl

theorem read_leaf {b : Builder} {c : Char} {word : List Char} {token : Token} (place : b.TakesValue)
    (isLeaf : token.isLeaf = true) (rest : List Char)
    (found : recognise c (word ++ rest) = some (some token, word.length)) :
    b.read (c :: (word ++ rest)) = token.value?.bind fun json => (Builder.put b.stack json).bind (·.read rest) := by
  rw [b.read_token found, place.step_leaf isLeaf, List.drop_left, Option.bind_assoc]

theorem parseRelaxed?_leaf {c : Char} {word : List Char} {token : Token} (isLeaf : token.isLeaf = true)
    (found : recognise c word = some (some token, word.length)) :
    parseRelaxed? (String.ofList (c :: word)) = token.value? := by
  have alone := read_leaf takesValue_start isLeaf [] (by rwa [List.append_nil])
  rw [List.append_nil] at alone
  rw [Builder.parseRelaxed?_eq, String.toList_ofList, alone]
  cases token.value? with
  | none => rfl
  | some json => simp [Builder.put, Builder.start, Builder.result?]

namespace Leaf

variable {c : Char} {word : List Char}

/-- In the place of a value a leaf puts there what it is read as alone. -/
theorem read (leaf : Leaf c word) {b : Builder} {rest : List Char} (place : b.TakesValue) (delimits : Delimits rest) :
    b.read (c :: (word ++ rest)) =
      (parseRelaxed? (String.ofList (c :: word))).bind fun json => (Builder.put b.stack json).bind (·.read rest) := by
  by_cases found : ∃ token, token.isLeaf = true ∧ recognise c (word ++ rest) = some (some token, word.length)
  · obtain ⟨token, isLeaf, found⟩ := found
    have alone : recognise c word = some (some token, word.length) := by
      simpa using leaf.same delimits delimits_nil found
    rw [read_leaf place isLeaf rest found, parseRelaxed?_leaf isLeaf alone]
  · have unread : b.read (c :: (word ++ rest)) = none := by
      rw [Option.eq_none_iff_forall_ne_some]
      exact fun final read => found (leaf.spans place delimits read)
    have unreadAlone : Builder.start.read (c :: word) = none := by
      rw [Option.eq_none_iff_forall_ne_some]
      intro final read
      obtain ⟨token, isLeaf, alone⟩ := leaf.spans takesValue_start delimits_nil (by simpa using read)
      exact found ⟨token, isLeaf, leaf.same delimits_nil delimits alone⟩
    rw [unread, Builder.parseRelaxed?_eq, String.toList_ofList, unreadAlone]
    rfl

end Leaf

end ThemeSense.Json.Relaxed
