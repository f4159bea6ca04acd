import ThemeSense.Proofs.Palette.Asking
import ThemeSense.Proofs.Theme.Answers

namespace ThemeSense

/-- What a color is shown as when all is known: the value that the theme gives it, and without one
that of the CSS color with its name. -/
def settledColor (value? : String → Option String) (name : String) : Option String :=
  (value? name).filter (· ≠ "") <|> builtinColor? name <|> namedColor? name

theorem settledColor_of_some {value? : String → Option String} {name value : String} (known : value? name = some value)
    (nonempty : value ≠ "") : settledColor value? name = some value := by
  rw [settledColor, known, Option.filter_some, if_pos (by simpa using nonempty)]
  rfl

theorem settledColor_of_empty {value? : String → Option String} {name : String}
    (empty : ∀ value, value? name = some value → value = "") :
    settledColor value? name = (builtinColor? name <|> namedColor? name) := by
  have nothing : (value? name).filter (· ≠ "") = none := by
    rw [Option.filter_eq_none_iff]
    exact fun value found => by simp [empty value found]
  rw [settledColor, nothing]
  rfl

theorem Palette.learn_sent (palette : Palette) (color : NamedValue) :
    (palette.learn color).sent = palette.sent ∧ (palette.learn color).connected = palette.connected := by
  unfold learn
  split <;> exact ⟨rfl, rfl⟩

/-- What is known after a color has come in is that color, whole, or was known before. -/
theorem Palette.known_learn {palette : Palette} {color : NamedValue} {name value : String}
    (found : (palette.learn color).known.get? name = some value) :
    color = ⟨name, value⟩ ∧ name ≠ "" ∧ value ≠ "" ∨ palette.known.get? name = some value := by
  by_cases incomplete : color.name = "" ∨ color.value = ""
  · rw [learn, if_pos incomplete] at found
    exact .inr found
  · rw [learn, if_neg incomplete, Table.get?_insert] at found
    split at found
    · rename_i same
      cases found
      subst same
      exact .inl ⟨rfl, not_or.mp incomplete⟩
    · exact .inr found

/-- No answer has misled the palette and none is lost, while `answers` are on their way to it. An
awaited name is still asked for, or answered, or has no value. -/
structure Faithful (value? : String → Option String) (palette : Palette) (answers : List NamedValue) : Prop where
  known : ∀ name value, palette.known.get? name = some value → value ≠ "" ∧ value? name = some value
  coming : ∀ color ∈ answers, value? color.name = some color.value
  awaited : ∀ name ∈ palette.awaited, name ≠ "" → .one name ∈ palette.sent ∨
    (∃ color ∈ answers, color.name = name) ∨ ∀ value, value? name = some value → value = ""

namespace Faithful

variable {value? : String → Option String} {palette : Palette} {answers : List NamedValue}

theorem empty : Faithful value? .empty [] where
  known := by simp [Palette.empty, Table.get?]
  coming := by simp
  awaited := by simp [Palette.empty]

theorem asked (faithful : Faithful value? palette answers) {queries : List ColorQuery} {after : Palette}
    (asked : palette.Asked queries after) : Faithful value? after answers where
  known := by
    rw [asked.known]
    exact faithful.known
  coming := faithful.coming
  awaited := by
    intro name member named
    rw [asked.awaited, List.mem_append] at member
    rw [asked.sent, List.mem_append]
    rcases member with old | new
    · exact (faithful.awaited name old named).imp_left .inl
    · exact .inl (.inr (ColorQuery.mem_names.mp new))

theorem forget (faithful : Faithful value? palette answers) : Faithful value? palette.forget answers where
  known := by simp [Palette.forget, Table.get?]
  coming := faithful.coming
  awaited := by simp [Palette.forget]

/-- The oldest query is answered by colors that are right, among them the one that it names. -/
theorem serve (faithful : Faithful value? palette answers) {query : ColorQuery} {rest : List ColorQuery}
    (oldest : palette.sent = query :: rest) {colors : List NamedValue}
    (right : ∀ color ∈ colors, value? color.name = some color.value)
    (complete : ∀ name value, query = .one name → value? name = some value → ⟨name, value⟩ ∈ colors) :
    Faithful value? { palette with sent := rest } (answers ++ colors) where
  known := faithful.known
  coming := by
    intro color member
    rcases List.mem_append.mp member with old | new
    · exact faithful.coming color old
    · exact right color new
  awaited := by
    intro name member named
    rcases faithful.awaited name member named with asked | ⟨color, coming, same⟩ | empty
    · rw [oldest] at asked
      rcases List.mem_cons.mp asked with now | later
      · cases value : value? name with
        | none => exact .inr (.inr (by simp))
        | some found =>
          exact .inr (.inl ⟨_, List.mem_append_right _ (complete name found now.symm value), rfl⟩)
      · exact .inl later
    · exact .inr (.inl ⟨color, List.mem_append_left _ coming, same⟩)
    · exact .inr (.inr empty)

theorem deliver {color : NamedValue} (faithful : Faithful value? palette (color :: answers)) :
    Faithful value? (palette.learn color) answers := by
  have right := faithful.coming color (by simp)
  have others : ∀ other ∈ answers, value? other.name = some other.value :=
    fun other member => faithful.coming other (by simp [member])
  by_cases incomplete : color.name = "" ∨ color.value = ""
  · rw [Palette.learn, if_pos incomplete]
    refine ⟨faithful.known, others, ?_⟩
    intro name member named
    rcases faithful.awaited name member named with asked | ⟨other, coming, same⟩ | empty
    · exact .inl asked
    · rcases List.mem_cons.mp coming with rfl | later
      · have noValue : other.value = "" := incomplete.resolve_left (by rwa [same])
        rw [same, noValue] at right
        exact .inr (.inr (by simp [right]))
      · exact .inr (.inl ⟨other, later, same⟩)
    · exact .inr (.inr empty)
  · rw [Palette.learn, if_neg incomplete]
    rw [not_or] at incomplete
    refine ⟨?_, others, ?_⟩
    · intro name value found
      rw [Table.get?_insert] at found
      split at found
      · rename_i same
        cases found
        exact ⟨incomplete.2, same ▸ right⟩
      · exact faithful.known name value found
    · intro name member named
      simp only [List.mem_filter, decide_eq_true_eq] at member
      rcases faithful.awaited name member.1 named with asked | ⟨other, coming, same⟩ | empty
      · exact .inl asked
      · rcases List.mem_cons.mp coming with rfl | later
        · exact absurd same.symm member.2
        · exact .inr (.inl ⟨other, later, same⟩)
      · exact .inr (.inr empty)

/-- When no query for it and no answer is on its way, a covered name is shown as it is settled. -/
theorem color_settled (faithful : Faithful value? palette []) {name : String} (named : name ≠ "")
    (notLiteral : name.toList.head? ≠ some '#') (unasked : .one name ∉ palette.sent) (covers : palette.Covers name) :
    (palette.color name).1 = settledColor value? name := by
  rw [Palette.color_fst, if_neg notLiteral]
  cases known : palette.known.get? name with
  | some value =>
    obtain ⟨nonempty, right⟩ := faithful.known name value known
    rw [settledColor_of_some right nonempty]
    rfl
  | none =>
    have awaited : name ∈ palette.awaited := by simpa [Palette.Covers, known] using covers
    have empty : ∀ value, value? name = some value → value = "" := by
      simpa [unasked] using faithful.awaited name awaited named
    rw [settledColor_of_empty empty]
    rfl

theorem learnAll {colors : List NamedValue} (faithful : Faithful value? palette colors) :
    Faithful value? (palette.learnAll colors) [] := by
  induction colors generalizing palette with
  | nil => exact faithful
  | cons color colors ih => exact ih faithful.deliver

end Faithful

/-- A steady theme answers all queries that are waiting. -/
theorem Theme.Steady.faithful_answers {theme : Theme} (steady : theme.Steady) {palette : Palette}
    {answers : List NamedValue} (right : ∀ query ∈ palette.sent, ∀ color ∈ (theme.answer query).1,
      theme.value? color.name = some color.value) (faithful : Faithful theme.value? palette answers) :
    Faithful theme.value? { palette with sent := [] } (answers ++ (theme.answers palette.sent).1) := by
  generalize queue : palette.sent = queries at right
  induction queries generalizing theme palette answers with
  | nil =>
    have same : { palette with sent := [] } = palette := by rw [← queue]
    rw [same]
    simpa [Theme.answers] using faithful
  | cons query queries ih =>
    obtain ⟨here, later⟩ := List.forall_mem_cons.mp right
    have next := faithful.serve queue here fun name value isOne found => by
      rw [isOne]
      exact mem_answer_one found
    rw [← steady.value?_accessed] at next
    have served := ih steady.accessed next rfl
      (by simpa only [steady.answer_accessed, steady.value?_accessed] using later)
    rw [steady.value?_accessed] at served
    simpa [Theme.answers, answer_snd] using served

namespace Theme.Regular

variable {theme : Theme} {palette : Palette} {answers : List NamedValue}

theorem faithful_answer (regular : theme.Regular) (faithful : Faithful theme.value? palette answers)
    {query : ColorQuery} {rest : List ColorQuery} (oldest : palette.sent = query :: rest) :
    Faithful theme.value? { palette with sent := rest } (answers ++ (theme.answer query).1) := by
  refine faithful.serve oldest (fun _ => regular.value?_of_mem_answer) ?_
  rintro name value rfl found
  exact mem_answer_one found

theorem answers_snd (regular : theme.Regular) (queries : List ColorQuery) :
    (theme.answers queries).2.Regular ∧ (theme.answers queries).2.value? = theme.value? := by
  induction queries generalizing theme with
  | nil => exact ⟨regular, rfl⟩
  | cons query queries ih =>
    obtain ⟨still, same⟩ := ih regular.accessed
    simp only [Theme.answers, answer_snd]
    exact ⟨still, same.trans regular.value?_accessed⟩

/-- A regular theme answers all queries and is as regular as before. -/
theorem faithful_answers (regular : theme.Regular) (faithful : Faithful theme.value? palette answers) :
    Faithful theme.value? { palette with sent := [] } (answers ++ (theme.answers palette.sent).1) ∧
      (theme.answers palette.sent).2.Regular ∧ (theme.answers palette.sent).2.value? = theme.value? :=
  ⟨regular.steady.faithful_answers (fun _ _ _ => regular.value?_of_mem_answer) faithful, regular.answers_snd _⟩

end Theme.Regular

end ThemeSense
