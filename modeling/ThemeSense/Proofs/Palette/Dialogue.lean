import ThemeSense.Proofs.Palette.Faithful

namespace ThemeSense

/-- A palette and the theme that answers it, with the answers that have not arrived yet. Queries wait
in the palette, and both queues keep their order. -/
structure Dialogue where
  palette : Palette
  theme : Theme
  answers : List NamedValue

namespace Dialogue

/-- One move of either side: the editor inquires or notices a new config, the theme answers the oldest
query, or the oldest answer arrives. -/
inductive Move where
  | inquire (inquiry : Inquiry)
  | forget
  | serve
  | deliver

def serve (dialogue : Dialogue) : Dialogue :=
  match dialogue.palette.sent with
  | [] => dialogue
  | query :: rest =>
    let (colors, theme) := dialogue.theme.answer query
    ⟨{ dialogue.palette with sent := rest }, theme, dialogue.answers ++ colors⟩

def deliver (dialogue : Dialogue) : Dialogue :=
  match dialogue.answers with
  | [] => dialogue
  | color :: rest => { dialogue with palette := dialogue.palette.learn color, answers := rest }

def step (dialogue : Dialogue) : Move → Dialogue
  | .inquire inquiry => { dialogue with palette := dialogue.palette.inquire inquiry }
  | .forget => { dialogue with palette := dialogue.palette.forget }
  | .serve => dialogue.serve
  | .deliver => dialogue.deliver

def start (theme : Theme) : Dialogue :=
  ⟨.empty, theme, []⟩

def run (dialogue : Dialogue) (moves : List Move) : Dialogue :=
  moves.foldl step dialogue

/-- The theme is as it was, up to accesses, and the palette is faithful to it. -/
structure Sound (value? : String → Option String) (dialogue : Dialogue) : Prop where
  regular : dialogue.theme.Regular
  same : dialogue.theme.value? = value?
  faithful : Faithful value? dialogue.palette dialogue.answers

namespace Sound

variable {value? : String → Option String} {dialogue : Dialogue}

theorem serve (sound : Sound value? dialogue) : Sound value? dialogue.serve := by
  unfold Dialogue.serve
  split
  · exact sound
  · rename_i query rest oldest
    obtain ⟨regular, rfl, faithful⟩ := sound
    simp only [Theme.answer_snd]
    exact ⟨regular.accessed, regular.value?_accessed, regular.faithful_answer faithful oldest⟩

theorem deliver (sound : Sound value? dialogue) : Sound value? dialogue.deliver := by
  unfold Dialogue.deliver
  split
  · exact sound
  · rename_i color rest oldest
    have faithful := sound.faithful
    rw [oldest] at faithful
    exact ⟨sound.regular, sound.same, faithful.deliver⟩

theorem step (sound : Sound value? dialogue) (move : Move) : Sound value? (dialogue.step move) := by
  cases move with
  | inquire inquiry =>
    obtain ⟨queries, asked⟩ := dialogue.palette.inquire_asked inquiry
    exact ⟨sound.regular, sound.same, sound.faithful.asked asked⟩
  | forget => exact ⟨sound.regular, sound.same, sound.faithful.forget⟩
  | serve => exact sound.serve
  | deliver => exact sound.deliver

theorem run (sound : Sound value? dialogue) (moves : List Move) : Sound value? (dialogue.run moves) := by
  induction moves generalizing dialogue with
  | nil => exact sound
  | cons move moves ih => exact ih (sound.step move)

/-- When no query and no answer is on its way, a name that was asked about is shown as it is settled. -/
theorem color_settled (sound : Sound value? dialogue) (noQuery : dialogue.palette.sent = [])
    (noAnswer : dialogue.answers = []) {name : String} (named : name ≠ "") (notLiteral : name.toList.head? ≠ some '#')
    (covers : dialogue.palette.Covers name) : (dialogue.palette.color name).1 = settledColor value? name := by
  have faithful := sound.faithful
  rw [noAnswer] at faithful
  exact faithful.color_settled named notLiteral (by simp [noQuery]) covers

end Sound

theorem sound_of_regular {theme : Theme} (regular : theme.Regular) (moves : List Move) :
    Sound theme.value? ((start theme).run moves) := by
  have begun : Sound theme.value? (start theme) := ⟨regular, rfl, .empty⟩
  exact begun.run moves

/-- Whatever the order of moves, each known value is the one of the theme, and an awaited name for
which neither a query nor an answer is on its way has no value there. Once both queues are empty,
each name that was asked about is shown as it is settled. -/
theorem no_answer_lost (theme : Theme) (regular : theme.Regular) (moves : List Move) :
    (∀ name value, ((start theme).run moves).palette.known.get? name = some value →
      value ≠ "" ∧ theme.value? name = some value) ∧
    (∀ name ∈ ((start theme).run moves).palette.awaited, name ≠ "" →
      .one name ∉ ((start theme).run moves).palette.sent →
      (∀ color ∈ ((start theme).run moves).answers, color.name ≠ name) →
      ∀ value, theme.value? name = some value → value = "") ∧
    (((start theme).run moves).palette.sent = [] → ((start theme).run moves).answers = [] →
      ∀ name, name ≠ "" → name.toList.head? ≠ some '#' → ((start theme).run moves).palette.Covers name →
      (((start theme).run moves).palette.color name).1 = settledColor theme.value? name) := by
  have sound := sound_of_regular regular moves
  have faithful := sound.faithful
  refine ⟨faithful.known, ?_, ?_⟩
  · intro name awaited named unasked unanswered
    rcases faithful.awaited name awaited named with asked | ⟨color, coming, same⟩ | empty
    · exact absurd asked unasked
    · exact absurd same (unanswered color coming)
    · exact empty
  · intro noQuery noAnswer name named notLiteral covers
    exact sound.color_settled noQuery noAnswer named notLiteral covers

/-- A query from before a change of the config is answered after it, and others are asked meanwhile. -/
theorem no_answer_lost_over_change :
    let table : ColorTable := ⟨[("brand", .value "#0af"), ("text", .group [("muted", .value "#888")])]⟩
    let moves := [.inquire (.decorate "a \x7b @color fg brand; \x7d".toList), .forget,
      .inquire (.color "text.muted"), .serve, .inquire .askAll, .deliver, .serve, .deliver, .serve, .deliver, .deliver]
    (Theme.ofTable table).Regular ∧ (((start (Theme.ofTable table)).run moves).palette.color "text.muted").1 =
      settledColor (Theme.ofTable table).value? "text.muted" := by
  intro table moves
  have regular : (Theme.ofTable table).Regular :=
    Theme.ofTable_regular ⟨by simp [table, Table.names], by simp [table, Table.names]⟩
      ⟨by simp [table], by simp [table]⟩
  obtain ⟨_, _, settled⟩ := no_answer_lost (Theme.ofTable table) regular moves
  exact ⟨regular, settled (by decide +kernel) (by decide +kernel) "text.muted" (by decide) (by decide)
    (.inl (by decide +kernel))⟩

/-- A color without a name is awaited for good once it was asked about: its answer has arrived, and the
value that the theme gives it is not shown. -/
theorem unnamed_awaited_for_good :
    let theme := Theme.ofTable ⟨[("", .value "#fff")]⟩
    let dialogue := (start theme).run [.inquire (.color ""), .serve, .deliver]
    theme.Regular ∧ "" ∈ dialogue.palette.awaited ∧ dialogue.palette.sent = [] ∧ dialogue.answers = [] ∧
      theme.value? "" = some "#fff" ∧ (dialogue.palette.color "").1 = none := by
  refine ⟨Theme.ofTable_regular ⟨by simp [Table.names], by simp⟩ ⟨by simp, by simp⟩, ?_⟩
  decide +kernel

/-- The values that are known come from the script, if it has no dot in a name, and once both queues are empty
each name that was asked about is shown as the script settles it. -/
theorem settled_by_script {script : String} {theme : Theme} (loaded : Theme.ofScript script = .ok theme)
    (undotted : theme.Undotted) (moves : List Move) :
    (∀ name value, ((start theme).run moves).palette.known.get? name = some value →
      value ≠ "" ∧ theme.value? name = some value) ∧
    (((start theme).run moves).palette.sent = [] → ((start theme).run moves).answers = [] →
      ∀ name, name ≠ "" → name.toList.head? ≠ some '#' → ((start theme).run moves).palette.Covers name →
      (((start theme).run moves).palette.color name).1 = settledColor theme.value? name) := by
  have sound := sound_of_regular (Theme.ofScript_regular loaded undotted) moves
  refine ⟨sound.faithful.known, fun noQuery noAnswer name named notLiteral covers => ?_⟩
  exact sound.color_settled noQuery noAnswer named notLiteral covers

end Dialogue

end ThemeSense
