import ThemeSense.Proofs.Editor.Drawing

namespace ThemeSense.Editor

theorem isDue_iff {deadline : Option Nat} {now : Nat} :
    isDue deadline now = true ↔ ∃ time, deadline = some time ∧ time ≤ now := by
  simp [isDue, Option.any_eq_true]

/-- A deadline that is set has not passed and comes by `last`. One that was looked at is not due either. -/
def Planned (deadline : Option Nat) (now last : Nat) (seen : Prop) : Prop :=
  ∀ time, deadline = some time → now ≤ time ∧ (seen → now < time) ∧ time ≤ last

namespace Planned

variable {deadline : Option Nat} {now last : Nat} {seen : Prop}

theorem none : Planned none now last seen := by
  simp [Planned]

theorem some {time : Nat} (future : now < time) (soon : time ≤ last) : Planned (some time) now last seen := by
  rintro _ ⟨⟩
  exact ⟨by omega, fun _ => future, soon⟩

theorem later {other : Nat} (planned : Planned deadline now last seen) (bound : last ≤ other) :
    Planned deadline now other seen := by
  intro time set
  obtain ⟨future, strict, soon⟩ := planned time set
  exact ⟨future, strict, by omega⟩

theorem keep {still : Prop} (planned : Planned deadline now last seen) (known : still → seen) :
    Planned deadline now last still := by
  intro time set
  obtain ⟨future, strict, soon⟩ := planned time set
  exact ⟨future, fun asked => strict (known asked), soon⟩

theorem of_not_due {after : Prop} (planned : Planned deadline now last seen) (early : ¬ isDue deadline now = true) :
    Planned deadline now last after := by
  intro time set
  obtain ⟨_, _, soon⟩ := planned time set
  have notDue : ¬ time ≤ now := fun past => early (isDue_iff.mpr ⟨time, set, past⟩)
  exact ⟨by omega, fun _ => by omega, soon⟩

theorem due_bound (planned : Planned deadline now last seen) (due : isDue deadline now = true) : now ≤ last := by
  obtain ⟨time, set, _⟩ := isDue_iff.mp due
  obtain ⟨future, _, soon⟩ := planned time set
  omega

theorem next (planned : Planned deadline now last seen) (looked : seen) : Planned deadline (now + 1) last False := by
  intro time set
  obtain ⟨_, strict, soon⟩ := planned time set
  exact ⟨strict looked, False.elim, soon⟩

theorem eq_none (planned : Planned deadline now last seen) (elapsed : last < now) : deadline = Option.none := by
  cases deadline with
  | none => rfl
  | some time =>
    have := planned time rfl
    omega

end Planned

/-- An editor at one instant, after the first `seen` of its three timers have been looked at. Since
`base` nothing has happened outside, so all that is still planned comes soon after it, and a query
goes out only because of what was planned then. -/
structure Tended (value? : String → Option String) (base now seen : Nat) (editor : Editor) : Prop where
  connected : editor.palette.connected = true
  faithful : Faithful value? editor.palette []
  askAll : Planned editor.askAllAt now (base + configQueryDelay) (0 < seen)
  render : Planned editor.renderAt now (base + configRenderDelay + quietDelay) (1 < seen)
  refresh : Planned editor.refreshAt now (base + configRenderDelay + refreshDelay) (2 < seen)
  asking : editor.palette.sent ≠ [] → now ≤ base + configRenderDelay ∧
    (editor.palette.CoversText editor.text ∨ now ≤ base + configQueryDelay)
  single : ∀ name, .one name ∈ editor.palette.sent → 1 < seen ∧ ¬ isDue editor.refreshAt now = true

/-- Besides, the text will be drawn while there is something in it to ask about. -/
structure Underway (value? : String → Option String) (base now seen : Nat) (editor : Editor) : Prop
    extends Tended value? base now seen editor where
  covered : editor.palette.CoversText editor.text ∨
    ∃ time, editor.renderAt = some time ∧ time ≤ base + configRenderDelay

variable {value? : String → Option String} {base now seen : Nat} {editor : Editor}

theorem Underway.start : Underway value? base now 0 (Editor.start .empty) where
  connected := rfl
  faithful := .empty
  askAll := .none
  render := .none
  refresh := .none
  asking := by simp [Editor.start, Palette.empty]
  single := by simp [Editor.start, Palette.empty]
  covered := .inl (by simp [Palette.CoversText, Editor.start, Mention.all, Pattern.occurrences])

theorem Underway.later {next : Nat} (underway : Underway value? base now seen editor) (after : base ≤ next) :
    Underway value? next now seen editor where
  connected := underway.connected
  faithful := underway.faithful
  askAll := underway.askAll.later (by omega)
  render := underway.render.later (by omega)
  refresh := underway.refresh.later (by omega)
  asking := fun sent => by
    obtain ⟨soon, covers⟩ := underway.asking sent
    exact ⟨by omega, covers.imp_right (by omega)⟩
  single := underway.single
  covered := underway.covered.imp_right fun ⟨time, planned, soon⟩ => ⟨time, planned, by omega⟩

theorem Underway.receive (underway : Underway value? now now 0 editor) (event : EditorEvent) :
    Underway value? now now 0 (editor.receive now event) := by
  have timely (covers : Prop) : editor.palette.sent ≠ [] → now ≤ now + configRenderDelay ∧
      (covers ∨ now ≤ now + configQueryDelay) := fun _ => ⟨by omega, .inr (by omega)⟩
  have delays : startupDelay = 1000 ∧ quietDelay = 200 ∧ configQueryDelay = 1000 ∧ configRenderDelay = 1500 := by
    decide
  cases event with
  | ready =>
    exact { underway with
      askAll := .some (by omega) (by omega)
      render := .some (by omega) (by omega)
      asking := timely _
      covered := .inr ⟨_, rfl, by omega⟩ }
  | edited text =>
    exact { underway with
      render := .some (by omega) (by omega)
      asking := timely _
      covered := .inr ⟨_, rfl, by omega⟩ }
  | configChanged =>
    exact { underway with
      faithful := underway.faithful.forget
      askAll := .some (by omega) (by omega)
      render := .some (by omega) (by omega)
      asking := timely _
      covered := .inr ⟨_, rfl, by omega⟩ }

theorem Underway.askAllIfDue (underway : Underway value? base now 0 editor) :
    Underway value? base now 1 (editor.askAllIfDue now) := by
  have unasked : ∀ name, .one name ∉ editor.palette.sent :=
    fun name member => absurd (underway.single name member).1 (by omega)
  unfold Editor.askAllIfDue
  split
  · rename_i due
    have soon := underway.askAll.due_bound due
    have earlier : configQueryDelay ≤ configRenderDelay := by decide
    obtain ⟨queries, asked, shape⟩ := editor.palette.askAll_asked
    exact {
      connected := asked.connected.trans underway.connected
      faithful := underway.faithful.asked asked
      askAll := .none
      render := underway.render.keep (by omega)
      refresh := underway.refresh.keep (by omega)
      asking := fun _ => ⟨by omega, .inr soon⟩
      single := by
        intro name member
        rw [asked.sent, List.mem_append] at member
        rcases member with old | new
        · exact absurd old (unasked name)
        · rcases shape with rfl | rfl <;> simp at new
      covered := underway.covered.imp_left fun covers => covers.asked asked }
  · rename_i early
    exact { underway with
      askAll := underway.askAll.of_not_due early
      render := underway.render.keep (by omega)
      refresh := underway.refresh.keep (by omega)
      single := fun name member => absurd member (unasked name) }

/-- Drawing in time leaves nothing to ask about. It shows the settled text or plans to draw again. -/
theorem Tended.render_underway (tended : Tended value? base now seen editor) (looked : 1 < seen)
    (unasked : ∀ name, .one name ∉ editor.palette.sent)
    (timely : editor.palette.CoversText editor.text ∨ now ≤ base + configRenderDelay) :
    Underway value? base now seen (editor.render now).2 ∧ (editor.render now).2.text = editor.text ∧
      ((editor.render now).1 = settledDecorations value? editor.text ∨
        (editor.render now).2.refreshAt.isSome = true) := by
  rcases editor.render_cases now tended.connected tended.faithful unasked with
    ⟨covers, result⟩ | ⟨uncovered, drawn, queries, after, asked, covers, result⟩
  · rw [result]
    exact ⟨⟨tended, .inl covers⟩, rfl, .inl rfl⟩
  · have soon : now ≤ base + configRenderDelay := timely.resolve_left uncovered
    have later : now < now + refreshDelay := by simp [refreshDelay]
    rw [result]
    have next : Underway value? base now seen
        { editor with palette := after, refreshAt := some (now + refreshDelay) } := { tended with
      connected := asked.connected.trans tended.connected
      faithful := tended.faithful.asked asked
      refresh := .some later (by omega)
      asking := fun _ => ⟨soon, .inl covers⟩
      single := by
        refine fun name _ => ⟨looked, ?_⟩
        rw [isDue_iff]
        rintro ⟨time, ⟨⟩, past⟩
        omega
      covered := .inl covers }
    exact ⟨next, rfl, .inr rfl⟩

/-- Something is left to ask about only while the drawing that is planned for it is ahead. -/
theorem Underway.timely (underway : Underway value? base now seen editor) :
    editor.palette.CoversText editor.text ∨ now ≤ base + configRenderDelay := by
  refine underway.covered.imp_right ?_
  rintro ⟨time, set, soon⟩
  obtain ⟨future, _⟩ := underway.render time set
  omega

/-- A timer that draws lets the editor go on. What it draws is the settled text, or drawing again is
planned. -/
structure Draws (value? : String → Option String) (base now seen : Nat) (editor : Editor)
    (result : Option (List Decoration) × Editor) : Prop where
  underway : Underway value? base now seen result.2
  text : result.2.text = editor.text
  idle : result.1 = none → result.2 = editor
  shown : ∀ drawn, result.1 = some drawn →
    drawn = settledDecorations value? editor.text ∨ result.2.refreshAt.isSome = true

theorem Underway.renderIfDue (underway : Underway value? base now 1 editor) :
    Draws value? base now 2 editor (editor.renderIfDue now) := by
  have unasked : ∀ name, .one name ∉ editor.palette.sent :=
    fun name member => absurd (underway.single name member).1 (by omega)
  unfold Editor.renderIfDue
  split
  · have cleared : Tended value? base now 2 { editor with renderAt := none } := { underway with
      askAll := underway.askAll.keep (by omega)
      render := .none
      refresh := underway.refresh.keep (by omega)
      single := fun name member => absurd member (unasked name) }
    obtain ⟨next, text, shown⟩ := cleared.render_underway (by omega) unasked underway.timely
    exact ⟨next, text, by simp, by rintro drawn ⟨⟩; exact shown⟩
  · rename_i early
    have next : Underway value? base now 2 editor := { underway with
      askAll := underway.askAll.keep (by omega)
      render := underway.render.of_not_due early
      refresh := underway.refresh.keep (by omega)
      single := fun name member => absurd member (unasked name) }
    exact ⟨next, rfl, fun _ => rfl, by simp⟩

theorem Underway.refreshIfDue (underway : Underway value? base now 2 editor) :
    Draws value? base now 3 editor (editor.refreshIfDue now) := by
  unfold Editor.refreshIfDue
  split
  · rename_i due
    have unasked : ∀ name, .one name ∉ editor.palette.sent := fun name member => (underway.single name member).2 due
    have cleared : Tended value? base now 3 { editor with refreshAt := none } := { underway with
      askAll := underway.askAll.keep (by omega)
      render := underway.render.keep (by omega)
      refresh := .none
      single := fun name member => absurd member (unasked name) }
    obtain ⟨next, text, shown⟩ := cleared.render_underway (by omega) unasked underway.timely
    exact ⟨next, text, by simp, by rintro drawn ⟨⟩; exact shown⟩
  · rename_i early
    have next : Underway value? base now 3 editor := { underway with
      askAll := underway.askAll.keep (by omega)
      render := underway.render.keep (by omega)
      refresh := underway.refresh.of_not_due early
      single := fun name member => ⟨by omega, early⟩ }
    exact ⟨next, rfl, fun _ => rfl, by simp⟩

theorem foldl_learn (editor : Editor) (now : Nat) (colors : List NamedValue) :
    colors.foldl (·.learn now ·) editor = { editor with
      palette := editor.palette.learnAll colors
      renderAt := if colors = [] then editor.renderAt else some (now + quietDelay) } := by
  induction colors generalizing editor with
  | nil => rfl
  | cons color colors ih =>
    rw [List.foldl_cons, ih]
    simp [Editor.learn, Palette.learnAll]

/-- With the answers to what was asked, the editor goes on to the next instant. -/
theorem Underway.answer {theme : Theme} (underway : Underway theme.value? base now 3 editor)
    (regular : theme.Regular) : Underway theme.value? base (now + 1) 0
      ((theme.answers editor.palette.sent).1.foldl (·.learn now ·)
        { editor with palette := { editor.palette with sent := [] } }) := by
  have answered := (regular.faithful_answers underway.faithful).1.learnAll
  have asked : (theme.answers editor.palette.sent).1 ≠ [] → editor.palette.sent ≠ [] := by
    rintro colors sent
    rw [sent] at colors
    exact colors rfl
  rw [foldl_learn]
  generalize (theme.answers editor.palette.sent).1 = colors at answered asked
  obtain ⟨noSent, same⟩ := Palette.learnAll_sent { editor.palette with sent := [] } colors
  have delays : quietDelay = 200 ∧ configQueryDelay = 1000 ∧ configRenderDelay = 1500 := by decide
  exact {
    connected := same.trans underway.connected
    faithful := answered
    askAll := (underway.askAll.next (by omega)).keep (by omega)
    render := by
      by_cases none : colors = []
      · simpa only [if_pos none] using (underway.render.next (by omega)).keep (by omega)
      · obtain ⟨soon, _⟩ := underway.asking (asked none)
        simp only [if_neg none]
        exact .some (by omega) (by omega)
    refresh := (underway.refresh.next (by omega)).keep (by omega)
    asking := fun sent => absurd noSent sent
    single := by
      intro name member
      rw [noSent] at member
      cases member
    covered := by
      by_cases none : colors = []
      · simp only [if_pos none]
        exact underway.covered.imp_left fun covers => covers.takeSent.learnAll colors
      · obtain ⟨_, covers | soon⟩ := underway.asking (asked none)
        · exact .inl (covers.takeSent.learnAll colors)
        · simp only [if_neg none]
          exact .inr ⟨_, rfl, by omega⟩ }

end ThemeSense.Editor
