import ThemeSense.Proofs.Palette.Dialogue
import ThemeSense.Proofs.Theme.Agreement

namespace ThemeSense

/-- Every color of the theme that can be shown is still to come with a bulk answer, or is among the
`fresh` answers, or no `old` answer is left and the color is not known by another value. -/
def Refilling (value? : String → Option String) (old fresh : List NamedValue) (palette : Palette) : Prop :=
  .all ∈ palette.sent ∨ ∀ name value, value? name = some value → name ≠ "" → value ≠ "" →
    ⟨name, value⟩ ∈ fresh ∨ old = [] ∧ ∀ other, palette.known.get? name = some other → other = value

namespace Refilling

variable {value? : String → Option String} {old fresh : List NamedValue} {palette : Palette} {color : NamedValue}

theorem asked (refilling : Refilling value? old fresh palette) {queries : List ColorQuery} {after : Palette}
    (asked : palette.Asked queries after) : Refilling value? old fresh after := by
  rcases refilling with bulk | colors
  · left
    rw [asked.sent]
    exact List.mem_append_left _ bulk
  · right
    rw [asked.known]
    exact colors

theorem forget (refilling : Refilling value? old fresh palette) : Refilling value? old fresh palette.forget := by
  refine refilling.imp_right fun colors name value found named valued => ?_
  refine (colors name value found named valued).imp_right fun ⟨arrived, _⟩ => ⟨arrived, ?_⟩
  simp [Palette.forget, Table.get?]

/-- A bulk answer holds every color that the theme has. -/
theorem serve (refilling : Refilling value? old fresh palette) {query : ColorQuery} {rest : List ColorQuery}
    (oldest : palette.sent = query :: rest) {colors : List NamedValue}
    (complete : query = .all → ∀ name value, value? name = some value → ⟨name, value⟩ ∈ colors) :
    Refilling value? old (fresh ++ colors) { palette with sent := rest } := by
  rcases refilling with bulk | coming
  · rw [oldest] at bulk
    rcases List.mem_cons.mp bulk with now | later
    · right
      intro name value found _ _
      exact .inl (List.mem_append_right _ (complete now.symm name value found))
    · exact .inl later
  · right
    intro name value found named valued
    exact (coming name value found named valued).imp_left (List.mem_append_left _)

/-- While an old answer is left, a color counts only if its own answer comes after it. -/
theorem learn_old (refilling : Refilling value? (color :: old) fresh palette) :
    Refilling value? old fresh (palette.learn color) := by
  rcases refilling with bulk | colors
  · left
    rwa [(palette.learn_sent color).1]
  · right
    intro name value found named valued
    rcases colors name value found named valued with coming | ⟨arrived, _⟩
    · exact .inl coming
    · cases arrived

theorem learn_fresh (right : value? color.name = some color.value)
    (refilling : Refilling value? [] (color :: fresh) palette) : Refilling value? [] fresh (palette.learn color) := by
  rcases refilling with bulk | colors
  · left
    rwa [(palette.learn_sent color).1]
  · right
    intro name value found named valued
    rcases colors name value found named valued with coming | ⟨_, only⟩
    · rcases List.mem_cons.mp coming with rfl | later
      · refine .inr ⟨rfl, fun other known => ?_⟩
        rw [Palette.learn, if_neg (by simp [named, valued]), Table.get?_insert, if_pos rfl] at known
        exact (Option.some.inj known).symm
      · exact .inl later
    · refine .inr ⟨rfl, fun other known => ?_⟩
      rcases Palette.known_learn known with ⟨rfl, _⟩ | before
      · exact Option.some.inj (right.symm.trans found)
      · exact only other before

end Refilling

namespace Dialogue

/-- The config changes: from now on another theme answers, and the palette forgets. Answers of the old
theme that are on their way stay on it. -/
def change (dialogue : Dialogue) (theme : Theme) : Dialogue :=
  { dialogue with palette := dialogue.palette.forget, theme := theme }

inductive Event where
  | move (move : Move)
  | change (theme : Theme)

def occur (dialogue : Dialogue) : Event → Dialogue
  | .move move => dialogue.step move
  | .change theme => dialogue.change theme

def evolve (dialogue : Dialogue) (events : List Event) : Dialogue :=
  events.foldl occur dialogue

theorem deliver_cons {dialogue : Dialogue} {color : NamedValue} {rest : List NamedValue}
    (oldest : dialogue.answers = color :: rest) :
    dialogue.deliver = { dialogue with palette := dialogue.palette.learn color, answers := rest } := by
  simp [deliver, oldest]

theorem step_connected {dialogue : Dialogue} (connected : dialogue.palette.connected = true) (move : Move) :
    (dialogue.step move).palette.connected = true := by
  cases move with
  | inquire inquiry =>
    obtain ⟨queries, asked⟩ := dialogue.palette.inquire_asked inquiry
    exact asked.connected.trans connected
  | forget => exact connected
  | serve =>
    simp only [step, serve]
    split <;> exact connected
  | deliver =>
    cases oldest : dialogue.answers with
    | nil => simpa [step, deliver, oldest] using connected
    | cons color rest =>
      rw [step, deliver_cons oldest]
      exact (dialogue.palette.learn_sent color).2.trans connected

theorem evolve_connected {dialogue : Dialogue} (connected : dialogue.palette.connected = true) (events : List Event) :
    (dialogue.evolve events).palette.connected = true := by
  induction events generalizing dialogue with
  | nil => exact connected
  | cons event events ih =>
    cases event with
    | move move => exact ih (step_connected connected move)
    | change theme => exact ih connected

/-- A dialogue after a change of its theme. Of its answers the `old` ones were under way when the theme
changed, as all `stale` ones were, and come before the `fresh` ones. Once all colors were `asked` for,
the palette is being refilled. -/
structure Renewing (value? : String → Option String) (stale : List NamedValue) (asked : Prop)
    (dialogue : Dialogue) (old fresh : List NamedValue) : Prop where
  regular : dialogue.theme.Regular
  same : dialogue.theme.value? = value?
  connected : dialogue.palette.connected = true
  answers : dialogue.answers = old ++ fresh
  isStale : ∀ color ∈ old, color ∈ stale
  isRight : ∀ color ∈ fresh, value? color.name = some color.value
  known : ∀ name value, dialogue.palette.known.get? name = some value →
    name ≠ "" ∧ (value? name = some value ∨ ⟨name, value⟩ ∈ stale)
  refilling : asked → Refilling value? old fresh dialogue.palette

theorem change_renewing {dialogue : Dialogue} (connected : dialogue.palette.connected = true) {theme : Theme}
    (regular : theme.Regular) :
    Renewing theme.value? dialogue.answers False (dialogue.change theme) dialogue.answers [] where
  regular := regular
  same := rfl
  connected := connected
  answers := by simp [change]
  isStale _ member := member
  isRight := by simp
  known := by simp [change, Palette.forget, Table.get?]
  refilling := False.elim

namespace Renewing

variable {value? : String → Option String} {stale old fresh : List NamedValue} {asked : Prop} {dialogue : Dialogue}

theorem inquire (renewing : Renewing value? stale asked dialogue old fresh) (inquiry : Inquiry) :
    Renewing value? stale (asked ∨ inquiry = .askAll) (dialogue.step (.inquire inquiry)) old fresh := by
  obtain ⟨queries, sends⟩ := dialogue.palette.inquire_asked inquiry
  refine ⟨renewing.regular, renewing.same, sends.connected.trans renewing.connected, renewing.answers,
    renewing.isStale, renewing.isRight, ?_, ?_⟩
  · rw [step, sends.known]
    exact renewing.known
  · rintro (before | rfl)
    · exact (renewing.refilling before).asked sends
    · left
      simp [step, Palette.inquire, Palette.askAll, Palette.send?, renewing.connected]

theorem forget (renewing : Renewing value? stale asked dialogue old fresh) :
    Renewing value? stale asked (dialogue.step .forget) old fresh where
  regular := renewing.regular
  same := renewing.same
  connected := renewing.connected
  answers := renewing.answers
  isStale := renewing.isStale
  isRight := renewing.isRight
  known := by simp [step, Palette.forget, Table.get?]
  refilling before := (renewing.refilling before).forget

theorem serve (renewing : Renewing value? stale asked dialogue old fresh) :
    ∃ later, Renewing value? stale asked dialogue.serve old (fresh ++ later) := by
  unfold Dialogue.serve
  split
  · exact ⟨[], by simpa using renewing⟩
  · rename_i query rest oldest
    obtain ⟨regular, rfl, connected, answers, isStale, isRight, known, refilling⟩ := renewing
    simp only [Theme.answer_snd]
    refine ⟨(dialogue.theme.answer query).1, regular.accessed, regular.value?_accessed, connected, ?_, isStale, ?_,
      known, ?_⟩
    · rw [answers, List.append_assoc]
    · intro color member
      rcases List.mem_append.mp member with early | late
      · exact isRight color early
      · exact regular.value?_of_mem_answer late
    · intro before
      refine (refilling before).serve oldest ?_
      rintro rfl name value found
      exact Theme.mem_answer_all found

/-- Old answers arrive first. What arrives is stale then, and right once they are all there. -/
theorem deliver (renewing : Renewing value? stale asked dialogue old fresh) :
    ∃ old fresh, Renewing value? stale asked dialogue.deliver old fresh := by
  obtain ⟨regular, same, connected, answers, isStale, isRight, known, refilling⟩ := renewing
  cases old with
  | cons color old =>
    rw [List.cons_append] at answers
    rw [deliver_cons answers]
    refine ⟨old, fresh, regular, same, (dialogue.palette.learn_sent color).2.trans connected, rfl,
      fun other member => isStale other (by simp [member]), isRight, ?_, fun before => (refilling before).learn_old⟩
    intro name value found
    rcases Palette.known_learn found with ⟨rfl, named, _⟩ | before
    · exact ⟨named, .inr (isStale _ (by simp))⟩
    · exact known name value before
  | nil =>
    cases fresh with
    | nil =>
      have unmoved : dialogue.deliver = dialogue := by simp [Dialogue.deliver, answers]
      rw [unmoved]
      exact ⟨[], [], regular, same, connected, answers, isStale, isRight, known, refilling⟩
    | cons color fresh =>
      have right := isRight color (by simp)
      rw [List.nil_append] at answers
      rw [deliver_cons answers]
      refine ⟨[], fresh, regular, same, (dialogue.palette.learn_sent color).2.trans connected, rfl, isStale,
        fun other member => isRight other (by simp [member]), ?_, fun before => (refilling before).learn_fresh right⟩
      intro name value found
      rcases Palette.known_learn found with ⟨rfl, named, _⟩ | before
      · exact ⟨named, .inl right⟩
      · exact known name value before

theorem weaken (renewing : Renewing value? stale asked dialogue old fresh) {less : Prop} (weaker : less → asked) :
    Renewing value? stale less dialogue old fresh :=
  { renewing with refilling := fun before => renewing.refilling (weaker before) }

theorem step (renewing : Renewing value? stale asked dialogue old fresh) (move : Move) :
    ∃ old fresh, Renewing value? stale (asked ∨ move = .inquire .askAll) (dialogue.step move) old fresh := by
  cases move with
  | inquire inquiry => exact ⟨old, fresh, (renewing.inquire inquiry).weaken (by simp)⟩
  | forget => exact ⟨old, fresh, renewing.forget.weaken (by simp)⟩
  | serve =>
    obtain ⟨later, served⟩ := renewing.serve
    exact ⟨old, fresh ++ later, served.weaken (by simp)⟩
  | deliver =>
    obtain ⟨old, fresh, delivered⟩ := renewing.deliver
    exact ⟨old, fresh, delivered.weaken (by simp)⟩

theorem run (renewing : Renewing value? stale asked dialogue old fresh) (moves : List Move) :
    ∃ old fresh, Renewing value? stale (asked ∨ .inquire .askAll ∈ moves) (dialogue.run moves) old fresh := by
  induction moves generalizing dialogue asked old fresh with
  | nil => exact ⟨old, fresh, renewing.weaken (by simp)⟩
  | cons move moves ih =>
    obtain ⟨old, fresh, first⟩ := renewing.step move
    obtain ⟨old, fresh, others⟩ := ih first
    refine ⟨old, fresh, others.weaken ?_⟩
    simp only [List.mem_cons, or_assoc, eq_comm]
    exact id

end Renewing

/-- Of an old theme nothing is left once all colors of the new one were asked for and both queues are
empty, except for a value that was on its way when the theme changed, and only where the new theme has
no value that could take its place. -/
theorem stale_only_without_successor (first : Theme) (earlier : List Event) (theme : Theme) (regular : theme.Regular)
    (later : List Move) (asked : .inquire .askAll ∈ later)
    (noQuery : ((((start first).evolve earlier).change theme).run later).palette.sent = [])
    (noAnswer : ((((start first).evolve earlier).change theme).run later).answers = []) :
    ∀ name value, ((((start first).evolve earlier).change theme).run later).palette.known.get? name = some value →
      theme.value? name = some value ∨
        ⟨name, value⟩ ∈ ((start first).evolve earlier).answers ∧
          ∀ other, theme.value? name = some other → other = "" := by
  have connected : ((start first).evolve earlier).palette.connected = true := evolve_connected rfl earlier
  obtain ⟨old, fresh, renewing⟩ := (change_renewing connected regular).run later
  obtain ⟨rfl, rfl⟩ : old = [] ∧ fresh = [] := by simpa [noAnswer] using renewing.answers.symm
  intro name value known
  obtain ⟨named, right | stale⟩ := renewing.known name value known
  · exact .inl right
  · by_cases right : theme.value? name = some value
    · exact .inl right
    refine .inr ⟨stale, fun other found => ?_⟩
    by_contra valued
    rcases renewing.refilling (.inr asked) with bulk | colors
    · simp [noQuery] at bulk
    · rcases colors name other found named valued with coming | ⟨_, only⟩
      · cases coming
      · exact right (only value known ▸ found)

/-- Answers of the old theme arrive after the change. One is replaced, the other one has no successor. -/
theorem stale_only_without_successor_over_change :
    let old := Theme.ofTable ⟨[("text", .value "#111"), ("brand", .value "#0af")]⟩
    let new := Theme.ofTable ⟨[("text", .value "#888"), ("brand", .value "")]⟩
    let earlier : List Event := [.move (.inquire (.color "text")), .move (.inquire (.color "brand")), .move .serve,
      .move .serve]
    let later : List Move := [.deliver, .inquire .askAll, .serve, .deliver, .deliver, .deliver]
    new.Regular ∧ ∀ name value,
      ((((start old).evolve earlier).change new).run later).palette.known.get? name = some value →
      new.value? name = some value ∨
        ⟨name, value⟩ ∈ ((start old).evolve earlier).answers ∧ ∀ other, new.value? name = some other → other = "" := by
  intro old new earlier later
  have regular : new.Regular :=
    Theme.ofTable_regular ⟨by simp [Table.names], by simp⟩ ⟨by simp, by simp⟩
  exact ⟨regular, stale_only_without_successor old earlier new regular later (by simp [later]) (by decide +kernel)
    (by decide +kernel)⟩

/-- A color that a new theme no longer has is shown as in the old one, if its answer was on its way when
the theme changed. -/
theorem removed_color_survives :
    let old := Theme.ofTable ⟨[("brand", .value "#0af")]⟩
    let new := Theme.ofTable ⟨[("text", .value "#888")]⟩
    let earlier : List Event := [.move (.inquire (.color "brand")), .move .serve]
    let later : List Move := [.inquire .askAll, .serve, .deliver, .deliver]
    let last := (((start old).evolve earlier).change new).run later
    old.Regular ∧ new.Regular ∧ .inquire .askAll ∈ later ∧ last.palette.sent = [] ∧ last.answers = [] ∧
      last.palette.known.get? "brand" = some "#0af" ∧ new.value? "brand" = none := by
  intro old new earlier later last
  refine ⟨Theme.ofTable_regular ⟨by simp [Table.names], by simp⟩ ⟨by simp, by simp⟩,
    Theme.ofTable_regular ⟨by simp [Table.names], by simp⟩ ⟨by simp, by simp⟩, by simp [later], ?_⟩
  decide +kernel

end Dialogue

end ThemeSense
