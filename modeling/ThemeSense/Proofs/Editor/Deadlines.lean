import Mathlib.Data.List.Count
import ThemeSense.Proofs.Editor.Course
import ThemeSense.Proofs.Editor.Repeating

namespace ThemeSense

namespace Impulse

/-- How many milliseconds after an impulse the document is drawn. -/
def delay : Impulse → Nat
  | .event .ready => 1000
  | .event (.edited _) => 200
  | .event .configChanged => 1500
  | .color _ => 200

/-- Whether all colors are asked for after an impulse. -/
def renews : Impulse → Bool
  | .event .ready => true
  | .event .configChanged => true
  | _ => false

def text? : Impulse → Option (List Char)
  | .event (.edited text) => some text
  | _ => none

/-- The text of the last edit, and nothing if there is none. -/
def lastText (heard : List (Nat × Impulse)) : List Char :=
  (heard.filterMap (·.2.text?)).getLast?.getD []

/-- When the last of some impulses is to be followed up. -/
def lastDue (delay : Impulse → Nat) (heard : List (Nat × Impulse)) : Option Nat :=
  heard.getLast?.map fun row => row.1 + delay row.2

theorem lastDue_concat (delay : Impulse → Nat) (heard : List (Nat × Impulse)) (now : Nat) (impulse : Impulse) :
    lastDue delay (heard ++ [(now, impulse)]) = some (now + delay impulse) := by
  simp [lastDue]

end Impulse

namespace Editor

/-- A deadline that still stands is due at an instant if it is set for it. -/
theorem isDue_standing (deadline : Option Nat) (now : Nat) :
    isDue (deadline.filter (now ≤ ·)) now = decide (deadline = some now) := by
  cases deadline with
  | none => rfl
  | some time =>
    by_cases stands : now ≤ time
    · simp [isDue, stands]
      omega
    · simp [isDue, stands]
      omega

/-- What still stands after an instant is what stood and was not due. -/
theorem standing_succ (deadline : Option Nat) (now : Nat) :
    (if isDue (deadline.filter (now ≤ ·)) now then none else deadline.filter (now ≤ ·)) =
      deadline.filter (now + 1 ≤ ·) := by
  rw [isDue_standing]
  cases deadline with
  | none => rfl
  | some time =>
    simp only [Option.filter_some, decide_eq_true_eq, Option.some.injEq]
    by_cases here : time = now
    · have past : ¬ now + 1 ≤ time := by omega
      rw [if_pos here, if_neg past]
    · have same : now + 1 ≤ time ↔ now ≤ time := by omega
      simp only [if_neg here, same]

/-- What is heard sends and repeats nothing by itself. -/
theorem foldl_hear_keeps (editor : Editor) (now : Nat) (impulses : List Impulse) :
    (impulses.foldl (·.hear now ·) editor).palette.sent = editor.palette.sent ∧
      (impulses.foldl (·.hear now ·) editor).refreshAt = editor.refreshAt := by
  induction impulses generalizing editor with
  | nil => exact ⟨rfl, rfl⟩
  | cons impulse impulses ih =>
    have here : (editor.hear now impulse).palette.sent = editor.palette.sent ∧
        (editor.hear now impulse).refreshAt = editor.refreshAt := by
      cases impulse with
      | event event => cases event <;> exact ⟨rfl, rfl⟩
      | color color => exact ⟨(editor.palette.learn_sent color).1, rfl⟩
    exact ⟨(ih _).1.trans here.1, (ih _).2.trans here.2⟩

/-- The text and the deadlines of an editor go back to what it has heard, as far as they lie at `base`
or after it. -/
structure Follows (heard : List (Nat × Impulse)) (base : Nat) (editor : Editor) : Prop where
  text : editor.text = Impulse.lastText heard
  askAllAt : editor.askAllAt = (Impulse.lastDue (fun _ => 1000) (heard.filter (·.2.renews))).filter (base ≤ ·)
  renderAt : editor.renderAt = (Impulse.lastDue Impulse.delay heard).filter (base ≤ ·)

namespace Follows

variable {heard : List (Nat × Impulse)} {base now : Nat} {editor : Editor}

theorem withPalette (follows : Follows heard base editor) (palette : Palette) :
    Follows heard base { editor with palette := palette } :=
  ⟨follows.text, follows.askAllAt, follows.renderAt⟩

theorem hear (follows : Follows heard base editor) (soon : base ≤ now + 1) (impulse : Impulse) :
    Follows (heard ++ [(now, impulse)]) base (editor.hear now impulse) := by
  obtain ⟨text, askAllAt, renderAt⟩ := follows
  have standing {delay : Nat} (long : 0 < delay) : (some (now + delay)).filter (base ≤ ·) = some (now + delay) := by
    rw [Option.filter_some, if_pos (by simpa using by omega)]
  refine ⟨?_, ?_, ?_⟩
  · rw [Impulse.lastText, List.filterMap_append, List.getLast?_append]
    cases impulse with
    | event event =>
      cases event with
      | edited changed => rfl
      | _ => exact text
    | color color => exact text
  · rw [List.filter_append]
    cases impulse with
    | event event =>
      cases event with
      | edited changed =>
        rw [List.filter_cons_of_neg Bool.false_ne_true, List.filter_nil, List.append_nil]
        exact askAllAt
      | _ =>
        rw [List.filter_cons_of_pos rfl, List.filter_nil, Impulse.lastDue_concat, standing (by decide)]
        rfl
    | color color =>
      rw [List.filter_cons_of_neg Bool.false_ne_true, List.filter_nil, List.append_nil]
      exact askAllAt
  · rw [Impulse.lastDue_concat]
    cases impulse with
    | event event =>
      cases event <;> exact (standing (by decide)).symm
    | color color => exact (standing (by decide)).symm

theorem hearAll (follows : Follows heard base editor) (soon : base ≤ now + 1) (impulses : List Impulse) :
    Follows (heard ++ impulses.map (now, ·)) base (impulses.foldl (·.hear now ·) editor) := by
  induction impulses generalizing heard editor with
  | nil => simpa using follows
  | cons impulse impulses ih =>
    have rest := ih (follows.hear soon impulse)
    rwa [List.append_assoc] at rest

end Follows

section Timers

variable (editor : Editor) (now : Nat)

theorem askAllIfDue_eq : editor.askAllIfDue now = { editor with
    palette := if isDue editor.askAllAt now then editor.palette.askAll else editor.palette
    askAllAt := if isDue editor.askAllAt now then none else editor.askAllAt } := by
  unfold askAllIfDue
  split <;> rfl

theorem renderIfDue_draws :
    (editor.renderIfDue now).1.toList =
        (if isDue editor.renderAt now then [(editor.palette.decorate editor.text).1.decorations] else []) ∧
      (editor.renderIfDue now).2.palette =
        (if isDue editor.renderAt now then (editor.palette.decorate editor.text).2 else editor.palette) ∧
      (editor.renderIfDue now).2.text = editor.text := by
  unfold renderIfDue
  split <;> exact ⟨rfl, rfl, rfl⟩

theorem refreshIfDue_draws :
    (editor.refreshIfDue now).1.toList =
        (if isDue editor.refreshAt now then [(editor.palette.decorate editor.text).1.decorations] else []) ∧
      (editor.refreshIfDue now).2.palette =
        (if isDue editor.refreshAt now then (editor.palette.decorate editor.text).2 else editor.palette) := by
  unfold refreshIfDue
  split <;> exact ⟨rfl, rfl⟩

/-- What timers draw and ask, by what is due. -/
theorem fire_eq :
    let first := if isDue editor.askAllAt now then editor.palette.askAll else editor.palette
    let second := if isDue editor.renderAt now then (first.decorate editor.text).2 else first
    let again := isDue ((editor.askAllIfDue now).renderIfDue now).2.refreshAt now
    ((editor.askAllIfDue now).renderIfDue now).2.palette = second ∧
      (editor.fire now).1 = (if isDue editor.renderAt now then [(first.decorate editor.text).1.decorations] else []) ++
        (if again then [(second.decorate editor.text).1.decorations] else []) ∧
      (editor.fire now).2.palette = if again then (second.decorate editor.text).2 else second := by
  intro first second again
  obtain ⟨shown, palette, text⟩ := (editor.askAllIfDue now).renderIfDue_draws now
  obtain ⟨shownAgain, last⟩ := ((editor.askAllIfDue now).renderIfDue now).2.refreshIfDue_draws now
  have asked : (editor.askAllIfDue now).palette = first ∧ (editor.askAllIfDue now).text = editor.text ∧
      (editor.askAllIfDue now).renderAt = editor.renderAt := by
    rw [askAllIfDue_eq]
    exact ⟨rfl, rfl, rfl⟩
  rw [asked.1, asked.2.1, asked.2.2] at shown palette
  rw [palette, text, asked.2.1] at shownAgain last
  refine ⟨palette, ?_, last⟩
  rw [← shown, fire, ← shownAgain]

theorem fire_deadlines : (editor.fire now).2.text = editor.text ∧
    (editor.fire now).2.askAllAt = (if isDue editor.askAllAt now then none else editor.askAllAt) ∧
    (editor.fire now).2.renderAt = if isDue editor.renderAt now then none else editor.renderAt := by
  have rendered (editor : Editor) : (editor.renderIfDue now).2.text = editor.text ∧
      (editor.renderIfDue now).2.askAllAt = editor.askAllAt ∧
      (editor.renderIfDue now).2.renderAt = if isDue editor.renderAt now then none else editor.renderAt := by
    unfold renderIfDue
    split <;> exact ⟨rfl, rfl, rfl⟩
  have refreshed (editor : Editor) : (editor.refreshIfDue now).2.text = editor.text ∧
      (editor.refreshIfDue now).2.askAllAt = editor.askAllAt ∧
      (editor.refreshIfDue now).2.renderAt = editor.renderAt := by
    unfold refreshIfDue
    split <;> exact ⟨rfl, rfl, rfl⟩
  simp only [fire, refreshed, rendered, askAllIfDue_eq, and_self]

end Timers

theorem Follows.fire {heard : List (Nat × Impulse)} {now : Nat} {editor : Editor} (follows : Follows heard now editor) :
    Follows heard (now + 1) (editor.fire now).2 := by
  obtain ⟨text, askAllAt, renderAt⟩ := editor.fire_deadlines now
  refine ⟨text.trans follows.text, ?_, ?_⟩
  · rw [askAllAt, follows.askAllAt, standing_succ]
  · rw [renderAt, follows.renderAt, standing_succ]

/-- The last time at which a name was asked about is a second ago. -/
def repetitionDue (asked : List (Nat × ColorQuery)) (now : Nat) : Bool :=
  asked.any (fun row => row.2 ≠ .all ∧ row.1 + 1000 = now) && asked.all fun row => row.2 = .all ∨ row.1 + 1000 ≤ now

theorem Repeats.isDue_eq {asked : List (Nat × ColorQuery)} {now : Nat} {refreshAt : Option Nat}
    (repeats : Repeats asked now now refreshAt) : isDue refreshAt now = repetitionDue asked now := by
  have second : refreshDelay = 1000 := rfl
  rw [Bool.eq_iff_iff, isDue_iff, repetitionDue, Bool.and_eq_true, List.any_eq_true, List.all_eq_true]
  simp only [decide_eq_true_eq]
  constructor
  · rintro ⟨time, planned, past⟩
    obtain ⟨future, start, name, member, rfl⟩ := repeats.origin time planned
    refine ⟨⟨_, member, by simp, by omega⟩, fun row asked => ?_⟩
    obtain ⟨other, query⟩ := row
    cases query with
    | all => exact .inl rfl
    | one another =>
      right
      by_contra late
      obtain ⟨time, same, after⟩ := repeats.planned other another asked (by omega)
      cases planned.symm.trans same
      omega
  · rintro ⟨⟨row, member, isName, here⟩, latest⟩
    obtain ⟨start, query⟩ := row
    cases query with
    | all => exact absurd rfl isName
    | one name =>
      obtain ⟨time, planned, after⟩ := repeats.planned start name member (by omega)
      obtain ⟨_, other, another, asked, rfl⟩ := repeats.origin time planned
      have past : other + 1000 ≤ now := (latest _ asked).resolve_left (by simp)
      exact ⟨_, planned, by omega⟩

end Editor

namespace Timeline

/-- A timeline at the start of an instant: its deadlines go back to what it has heard and asked. -/
structure Timed (heard : List (Nat × Impulse)) (now : Nat) (timeline : Timeline) : Prop where
  follows : timeline.editor.Follows heard now
  sent : timeline.editor.palette.sent = []
  repeats : Editor.Repeats timeline.queries now now timeline.editor.refreshAt

namespace Timed

variable {heard : List (Nat × Impulse)} {now : Nat} {timeline : Timeline}

theorem start {palette : Palette} (fresh : palette.sent = []) (theme : Option Theme) :
    Timed [] 0 (Timeline.start palette theme) :=
  ⟨⟨rfl, rfl, rfl⟩, fresh, .start⟩

theorem unheard (timed : Timed heard now timeline) : Timed heard now timeline.unheard :=
  ⟨timed.follows.withPalette _, timed.sent, timed.repeats⟩

theorem receiveAll (timed : Timed heard now timeline) (running : timeline.running = true) (inputs : List Input) :
    Timed (heard ++ (timeline.taken inputs).map (now, ·)) now (timeline.receiveAll now inputs) := by
  obtain ⟨_, _, queries, _, sent, refreshAt⟩ := timeline.receiveAll_takes now inputs
  refine ⟨?_, sent.trans timed.sent, ?_⟩
  · rw [receiveAll_hears running]
    exact timed.follows.hearAll (Nat.le_succ now) _
  · rw [queries, refreshAt]
    exact timed.repeats

theorem instant (timed : Timed heard now timeline) {inputs : List Input}
    (running : (timeline.instant now inputs).running = true) :
    Timed (heard ++ (timeline.taken inputs ++ timeline.answered now inputs).map (now, ·)) (now + 1)
      (timeline.instant now inputs) := by
  obtain ⟨before, after⟩ := instant_of_running running
  have received := timed.receiveAll before inputs
  obtain ⟨queries, sent, repeats⟩ := Editor.fire_asks (timeline.receiveAll now inputs).editor now
  rw [received.sent, List.nil_append] at sent
  have planned := repeats timeline.queries
    ((timeline.receiveAll_takes now inputs).queries ▸ received.repeats)
  rw [after, sent]
  obtain ⟨nothing, refreshAt⟩ := Editor.foldl_hear_keeps
    { ((timeline.receiveAll now inputs).editor.fire now).2 with
      palette := { ((timeline.receiveAll now inputs).editor.fire now).2.palette with sent := [] } } now
    (timeline.answered now inputs)
  refine ⟨?_, nothing, ?_⟩
  · -- answers are heard when the timers have been looked at, so nothing that they set is due before the next instant
    rw [List.map_append, ← List.append_assoc]
    exact (received.follows.fire.withPalette _).hearAll (Nat.le_refl _) _
  · rw [← refreshAt] at planned
    exact planned.later

/-- Whether the document is to be drawn again is said by the queries up to that timer. -/
theorem repetition_due (timed : Timed heard now timeline) :
    Editor.isDue ((timeline.editor.askAllIfDue now).renderIfDue now).2.refreshAt now =
      Editor.repetitionDue (timeline.queries ++
        ((timeline.editor.askAllIfDue now).renderIfDue now).2.palette.sent.map (now, ·)) now := by
  obtain ⟨queries, sent, repeats⟩ :=
    (timeline.editor.askAllIfDue_asks now).trans ((timeline.editor.askAllIfDue now).renderIfDue_asks now)
  rw [timed.sent, List.nil_append] at sent
  rw [sent]
  exact (repeats timeline.queries timed.repeats).isDue_eq

end Timed

variable {timeline : Timeline}

theorem Leads.timed {palette : Palette} {theme : Option Theme} (fresh : palette.sent = []) {now : Nat}
    {heard : List (Nat × Impulse)} (leads : Leads 0 (Timeline.start palette theme) heard now timeline)
    (running : timeline.running = true) : Timed heard now timeline := by
  induction leads with
  | start => exact .start fresh theme
  | unheard _ ih => exact (ih running).unheard
  | instant inputs _ ih => exact (ih (instant_of_running running).1).instant running

/-- Timers that draw ask about single names, after all colors have been asked for. -/
theorem drawn_asks (running : timeline.running = true) (now : Nat) (inputs : List Input) :
    ∃ names : List String, (timeline.drawn now inputs).editor.palette.sent =
      ((timeline.receiveAll now inputs).editor.askAllIfDue now).palette.sent ++ names.map .one := by
  have timer (timeline : Timeline) (result : Option (List Decoration) × Editor) (due : Bool)
      (drawn : result.2.palette =
        if due then (timeline.editor.palette.decorate timeline.editor.text).2 else timeline.editor.palette) :
      ∃ names : List String,
        (if timeline.running then timeline.present now result else timeline).editor.palette.sent =
          timeline.editor.palette.sent ++ names.map .one := by
    split
    · rw [(timeline.present_keeps now result).1, drawn]
      split
      · obtain ⟨names, sent, _⟩ := timeline.editor.palette.decorate_asks timeline.editor.text
        exact ⟨names, sent⟩
      · exact ⟨[], by simp⟩
    · exact ⟨[], by simp⟩
  have received : (timeline.receiveAll now inputs).running = true :=
    (timeline.receiveAll_takes now inputs).running.trans running
  have asked : ((timeline.receiveAll now inputs).askAll now).editor =
      (timeline.receiveAll now inputs).editor.askAllIfDue now := by
    rw [askAll, if_pos received]
  rw [drawn, ← asked]
  generalize (timeline.receiveAll now inputs).askAll now = before
  obtain ⟨first, one⟩ := timer before _ _ (before.editor.renderIfDue_draws now).2.1
  obtain ⟨second, two⟩ := timer (before.render now) _ _ ((before.render now).editor.refreshIfDue_draws now).2
  refine ⟨first ++ second, ?_⟩
  rw [List.map_append, ← List.append_assoc, ← one]
  exact two

theorem drawn_count_all (running : timeline.running = true) {now : Nat} {inputs : List Input}
    (nothing : (timeline.receiveAll now inputs).editor.palette.sent = []) :
    (timeline.drawn now inputs).editor.palette.sent.count .all =
      if Editor.isDue (timeline.receiveAll now inputs).editor.askAllAt now &&
        (timeline.receiveAll now inputs).editor.palette.connected then 1 else 0 := by
  obtain ⟨names, sent⟩ := drawn_asks running now inputs
  rw [sent, List.count_append, ColorQuery.count_all_map_one, Editor.askAllIfDue_eq]
  cases due : Editor.isDue (timeline.receiveAll now inputs).editor.askAllAt now <;>
    cases connected : (timeline.receiveAll now inputs).editor.palette.connected <;>
    simp [Palette.askAll, Palette.send?, connected, nothing]

/-- Drawings come when they are due, and only then. At each instant until the timeline stops the document
is drawn if the last impulse falls due, and once more if the last query about a name is a second old; all
colors are asked for if the last impulse that renews them is. What is last is said by all that comes
before the timer in question: inputs of the same instant come before it, and answers to it do not. -/
theorem drawn_at_deadlines (palette : Palette) (theme : Option Theme) (fresh : palette.sent = [])
    (past : List (Nat × Impulse)) (now : Nat) (timeline : Timeline)
    (before : Leads 0 (start palette theme) past now timeline) (running : timeline.running = true)
    (inputs : List Input) (more : List (Nat × Impulse)) (stop : Nat) (later : Timeline)
    (after : Leads (now + 1) (timeline.instant now inputs) more stop later) :
    let received := timeline.receiveAll now inputs
    let heard := past ++ (timeline.taken inputs).map (now, ·)
    let text := Impulse.lastText heard
    let renewal : Bool := Impulse.lastDue (fun _ => 1000) (heard.filter (·.2.renews)) = some now
    let drawing : Bool := Impulse.lastDue Impulse.delay heard = some now
    let first := if renewal then received.editor.palette.askAll else received.editor.palette
    let second := if drawing then (first.decorate text).2 else first
    let repetition := Editor.repetitionDue (timeline.queries ++ second.sent.map (now, ·)) now
    let third := if repetition then (second.decorate text).2 else second
    let drawn := (if drawing then [(first.decorate text).1.decorations] else []) ++
      if repetition then [(second.decorate text).1.decorations] else []
    let goesOn := received.rendersOpen || drawn.isEmpty
    (timeline.instant now inputs).running = goesOn ∧
      later.renders.filter (·.1 = now) = (if goesOn then drawn else []).map (now, ·) ∧
      (goesOn = true → later.queries.filter (·.1 = now) = third.sent.map (now, ·)) ∧
      Editor.isDue received.editor.askAllAt now = renewal ∧
      later.queries.count (now, .all) = if renewal && received.editor.palette.connected then 1 else 0 := by
  intro received heard text renewal drawing first second repetition third drawn goesOn
  have timed : Timed heard now received := (before.timed fresh running).receiveAll running inputs
  have renewalDue : Editor.isDue received.editor.askAllAt now = renewal := by
    rw [timed.follows.askAllAt, Editor.isDue_standing]
  have drawingDue : Editor.isDue received.editor.renderAt now = drawing := by
    rw [timed.follows.renderAt, Editor.isDue_standing]
  obtain ⟨secondEq, drawnEq, thirdEq⟩ := received.editor.fire_eq now
  rw [renewalDue, drawingDue, timed.follows.text] at secondEq drawnEq thirdEq
  have repetitionDue := timed.repetition_due
  rw [secondEq, (timeline.receiveAll_takes now inputs).queries] at repetitionDue
  rw [repetitionDue] at drawnEq thirdEq
  obtain ⟨runs, shown⟩ := instant_shows running now inputs
  rw [drawnEq] at runs shown
  obtain ⟨_, rendersBefore, queriesBefore⟩ := before.grows
  obtain ⟨_, rendersAfter, queriesAfter⟩ := after.grows
  rw [shown, runs] at rendersAfter
  rw [(timeline.instant_logs now inputs).2] at queriesAfter
  have queries := queriesBefore.filter_eq queriesAfter
  refine ⟨runs, rendersBefore.filter_eq rendersAfter, fun going => ?_, renewalDue, ?_⟩
  · have goes : (timeline.drawn now inputs).running = true :=
      (answer_logs _ now).1.symm.trans (runs.trans going)
    rw [queries, (drawn_of_running goes).2]
    exact congrArg (fun palette : Palette => palette.sent.map (now, ·)) thirdEq
  · have atInstant : later.queries.count (now, .all) = (later.queries.filter (·.1 = now)).count (now, .all) :=
      (List.count_filter (by simp)).symm
    rw [atInstant, queries, List.count_map_of_injective _ _ (Prod.mk_right_injective now),
      drawn_count_all running timed.sent, renewalDue]

/-- A second edit puts the drawing off. -/
theorem drawn_at_deadlines_of_edits :
    let events := [(0, .edited "@color fg red".toList), (50, .edited "@color fg blue".toList)]
    ((start .empty none).before (schedule events) 250).running = true ∧ ∀ count,
      ((start .empty none).before (schedule events) (251 + count)).renders.filter (·.1 = 250) =
          [(250, [⟨⟨⟨0, 10⟩, ⟨0, 14⟩⟩, "#0000FF"⟩])] ∧
        ((start .empty none).before (schedule events) (251 + count)).queries.filter (·.1 = 250) =
          [(250, .one "blue")] := by
  intro events
  have running : ((start .empty none).before (schedule events) 250).running = true := by decide +kernel
  have heard : (start .empty none).heardBetween (schedule events) 0 250 =
      events.map fun event => (event.1, .event event.2) := by
    rw [heardBetween_schedule]
    decide +kernel
  have before := (start .empty none).leads_before (schedule events) 0 250
  rw [heard] at before
  refine ⟨running, fun count => ?_⟩
  have after := (start .empty none).leads_before (schedule events) (250 + 1) count
  rw [before_succ] at after
  obtain ⟨_, renders, queries, _⟩ :=
    drawn_at_deadlines .empty none rfl _ 250 _ before running _ _ _ _ after
  refine ⟨renders.trans ?_, (queries ?_).trans ?_⟩
  · decide +kernel
  · decide +kernel
  · decide +kernel

end Timeline

end ThemeSense
