import ThemeSense.Proofs.Editor.Instants

namespace ThemeSense

/-- What an editor takes in: an event, or a color that somebody sends. -/
inductive Impulse where
  | event (event : EditorEvent)
  | color (color : NamedValue)
deriving DecidableEq

def Input.event? : Input → Option Impulse
  | .event happening => some (.event happening)
  | _ => none

def Input.color? : Input → Option Impulse
  | .color sent => some (.color sent)
  | _ => none

def Editor.hear (editor : Editor) (now : Nat) : Impulse → Editor
  | .event event => editor.receive now event
  | .color color => editor.learn now color

namespace Timeline

def closesColors : Input → Bool
  | .closeColors => true
  | _ => false

/-- The colors that are sent at an instant, until their source closes. -/
def colorsSent (timeline : Timeline) (inputs : List Input) : List Impulse :=
  if timeline.colorsOpen then (inputs.takeWhile (!closesColors ·)).filterMap Input.color? else []

/-- What the editor takes in at an instant before its timers are looked at: events, and then colors. -/
def taken (timeline : Timeline) (inputs : List Input) : List Impulse :=
  if timeline.running then inputs.filterMap Input.event? ++ timeline.colorsSent inputs else []

/-- What it takes in after its timers: the answers to what it has asked. -/
def answered (timeline : Timeline) (now : Nat) (inputs : List Input) : List Impulse :=
  if (timeline.drawn now inputs).running then (timeline.drawn now inputs).handed.map .color else []

/-- The timeline when nobody takes its queries any more. -/
def unheard (timeline : Timeline) : Timeline :=
  { timeline with editor := { timeline.editor with palette := timeline.editor.palette.disconnect } }

/-- How a timeline goes on from an instant, by what its editor takes in on the way. At any time
those who take its queries may go away. -/
inductive Leads (first : Nat) (before : Timeline) : List (Nat × Impulse) → Nat → Timeline → Prop
  | start : Leads first before [] first before
  | unheard {heard now timeline} : Leads first before heard now timeline → Leads first before heard now timeline.unheard
  | instant {heard now timeline} (inputs : List Input) : Leads first before heard now timeline →
      Leads first before
        (heard ++ (timeline.taken inputs ++ timeline.answered now inputs).map (now, ·))
        (now + 1) (timeline.instant now inputs)

variable {timeline : Timeline} {now : Nat} {inputs : List Input}

/-- Events do not close the source of colors. -/
theorem foldl_receive_events (timeline : Timeline) (now : Nat) (inputs : List Input) :
    ((inputs.filter (!concernsColors ·)).foldl (·.receive now ·) timeline).colorsOpen = timeline.colorsOpen ∧
      ((inputs.filter (!concernsColors ·)).foldl (·.receive now ·) timeline).editor =
        (inputs.filterMap Input.event?).foldl (·.hear now ·) timeline.editor := by
  induction inputs generalizing timeline with
  | nil => exact ⟨rfl, rfl⟩
  | cons input inputs ih =>
    cases input with
    | event event => exact ih (timeline.receive now (.event event))
    | color color => exact ih timeline
    | closeColors => exact ih timeline
    | closeRenders => exact ih (timeline.receive now .closeRenders)

theorem foldl_receive_colors (timeline : Timeline) (now : Nat) (inputs : List Input) :
    ((inputs.filter concernsColors).foldl (·.receive now ·) timeline).editor =
      (timeline.colorsSent inputs).foldl (·.hear now ·) timeline.editor := by
  induction inputs generalizing timeline with
  | nil => simp [colorsSent]
  | cons input inputs ih =>
    cases input with
    | event event => exact ih timeline
    | color sent =>
      refine (ih (timeline.receive now (.color sent))).trans ?_
      cases colorsOpen : timeline.colorsOpen with
      | true => simp [colorsSent, Timeline.receive, colorsOpen, closesColors, Input.color?, Editor.hear]
      | false => simp [colorsSent, Timeline.receive, colorsOpen]
    | closeColors =>
      refine (ih (timeline.receive now .closeColors)).trans ?_
      simp [colorsSent, Timeline.receive, closesColors]
    | closeRenders => exact ih timeline

/-- What reaches the editor at an instant is what it takes in. -/
theorem receiveAll_hears (running : timeline.running = true) (now : Nat) (inputs : List Input) :
    (timeline.receiveAll now inputs).editor =
      (timeline.taken inputs).foldl (·.hear now ·) timeline.editor := by
  obtain ⟨colorsOpen, events⟩ := foldl_receive_events timeline now inputs
  rw [receiveAll, if_pos running, List.foldl_append, foldl_receive_colors, colorsSent, colorsOpen, events, taken,
    if_pos running, List.foldl_append, colorsSent]

/-- A timer that draws is what it is for a timeline that somebody looks at, as long as the timeline goes on. -/
theorem present_of_running {result : Option (List Decoration) × Editor}
    (running : (if timeline.running then timeline.present now result else timeline).running = true) :
    timeline.running = true ∧ (if timeline.running then timeline.present now result else timeline) = { timeline with
      editor := result.2, renders := timeline.renders ++ result.1.toList.map (now, ·) } := by
  by_cases before : timeline.running = true
  · rw [if_pos before] at running ⊢
    refine ⟨before, ?_⟩
    by_cases rendersOpen : timeline.rendersOpen = true
    · exact present_eq rendersOpen result
    · obtain ⟨drawn?, editor⟩ := result
      cases drawn? with
      | none => simp [Timeline.present]
      | some drawn => simp [Timeline.present, rendersOpen] at running
  · rw [if_neg before] at running
    exact absurd running before

/-- As long as it goes on, a timeline takes its inputs in and lets the timers fire. -/
theorem drawn_of_running (running : (timeline.drawn now inputs).running = true) :
    timeline.running = true ∧ timeline.drawn now inputs = { timeline.receiveAll now inputs with
      editor := ((timeline.receiveAll now inputs).editor.fire now).2
      renders := timeline.renders ++ ((timeline.receiveAll now inputs).editor.fire now).1.map (now, ·) } := by
  obtain ⟨_, same, _, renders, _, _⟩ := timeline.receiveAll_takes now inputs
  unfold drawn at running ⊢
  generalize timeline.receiveAll now inputs = received at running same renders
  obtain ⟨afterRender, refreshed⟩ := present_of_running running
  obtain ⟨afterAskAll, rendered⟩ := present_of_running afterRender
  have before : received.running = true := by
    by_contra stopped
    rw [askAll, if_neg stopped] at afterAskAll
    exact stopped afterAskAll
  refine ⟨same.symm.trans before, ?_⟩
  rw [Timeline.refresh, refreshed, Timeline.render, rendered, askAll, if_pos before]
  simp [Editor.fire, renders]

/-- A timeline that is looked at goes on, and so does one that has nothing to draw. -/
theorem drawn_running (running : timeline.running = true) (now : Nat) (inputs : List Input) :
    (timeline.drawn now inputs).running = ((timeline.receiveAll now inputs).rendersOpen ||
      ((timeline.receiveAll now inputs).editor.fire now).1.isEmpty) ∧
      ((timeline.drawn now inputs).running = false → (timeline.drawn now inputs).renders = timeline.renders) := by
  obtain ⟨_, same, _, renders, _, _⟩ := timeline.receiveAll_takes now inputs
  rw [running] at same
  unfold drawn
  generalize timeline.receiveAll now inputs = received at same renders
  rw [← renders, askAll, if_pos same, Editor.fire]
  rcases first : (received.editor.askAllIfDue now).renderIfDue now with ⟨drawn?, editor⟩
  rcases second : editor.refreshIfDue now with ⟨again?, last⟩
  cases shown : received.rendersOpen <;> cases drawn? <;> cases again? <;>
    simp [Timeline.render, Timeline.refresh, Timeline.present, same, first, second]

theorem answer_logs (timeline : Timeline) (now : Nat) : (timeline.answer now).running = timeline.running ∧
    (timeline.answer now).renders = timeline.renders ∧
    (timeline.answer now).queries = timeline.queries ++ timeline.editor.palette.sent.map (now, ·) := by
  unfold Timeline.answer
  dsimp only
  split <;> exact ⟨rfl, rfl, rfl⟩

/-- All that an instant does to a timeline that goes on. -/
theorem instant_of_running (running : (timeline.instant now inputs).running = true) :
    timeline.running = true ∧ timeline.instant now inputs = { timeline.receiveAll now inputs with
      editor := (timeline.answered now inputs).foldl (·.hear now ·)
        { ((timeline.receiveAll now inputs).editor.fire now).2 with
          palette := { ((timeline.receiveAll now inputs).editor.fire now).2.palette with sent := [] } }
      theme := timeline.theme.map fun theme =>
        (theme.answers ((timeline.receiveAll now inputs).editor.fire now).2.palette.sent).2
      queries := timeline.queries ++
        ((timeline.receiveAll now inputs).editor.fire now).2.palette.sent.map (now, ·)
      renders := timeline.renders ++ ((timeline.receiveAll now inputs).editor.fire now).1.map (now, ·) } := by
  have last : timeline.instant now inputs = (timeline.drawn now inputs).answer now := rfl
  rw [last, (answer_logs _ now).1] at running
  obtain ⟨before, drawn⟩ := drawn_of_running running
  obtain ⟨theme, _, queries, _, _, _⟩ := timeline.receiveAll_takes now inputs
  refine ⟨before, ?_⟩
  rw [last, answer_eq running, answered, if_pos running, List.foldl_map, drawn]
  simp only [queries, theme]
  rfl

theorem drawn_stopped (stopped : ¬ timeline.running = true) (now : Nat) (inputs : List Input) :
    timeline.drawn now inputs = timeline := by
  simp [drawn, receiveAll, askAll, Timeline.render, Timeline.refresh, stopped]

theorem present_keeps (timeline : Timeline) (now : Nat) (result : Option (List Decoration) × Editor) :
    (timeline.present now result).editor = result.2 ∧ (timeline.present now result).queries = timeline.queries := by
  obtain ⟨drawn?, editor⟩ := result
  cases drawn? with
  | none => exact ⟨rfl, rfl⟩
  | some drawn =>
    rw [present]
    split <;> exact ⟨rfl, rfl⟩

theorem drawn_queries (timeline : Timeline) (now : Nat) (inputs : List Input) :
    (timeline.drawn now inputs).queries = timeline.queries := by
  have kept (timeline : Timeline) (result : Option (List Decoration) × Editor) :
      (if timeline.running then timeline.present now result else timeline).queries = timeline.queries := by
    split
    · exact (timeline.present_keeps now result).2
    · rfl
  rw [drawn, Timeline.refresh, kept, Timeline.render, kept, askAll, ← (timeline.receiveAll_takes now inputs).queries]
  split <;> rfl

/-- What an instant shows is what the timers draw, unless the timeline stops at it. -/
theorem instant_shows (running : timeline.running = true) (now : Nat) (inputs : List Input) :
    (timeline.instant now inputs).running = ((timeline.receiveAll now inputs).rendersOpen ||
      ((timeline.receiveAll now inputs).editor.fire now).1.isEmpty) ∧
      (timeline.instant now inputs).renders = timeline.renders ++ (if (timeline.instant now inputs).running then
        ((timeline.receiveAll now inputs).editor.fire now).1 else []).map (now, ·) := by
  have last : timeline.instant now inputs = (timeline.drawn now inputs).answer now := rfl
  obtain ⟨same, renders, _⟩ := (timeline.drawn now inputs).answer_logs now
  obtain ⟨goes, unchanged⟩ := drawn_running running now inputs
  rw [last, same, renders]
  refine ⟨goes, ?_⟩
  cases going : (timeline.drawn now inputs).running with
  | false => simpa using unchanged going
  | true =>
    rw [(drawn_of_running going).2]
    rfl

/-- An instant adds rows of its own time to what was logged before. -/
theorem instant_logs (timeline : Timeline) (now : Nat) (inputs : List Input) :
    (∃ shown : List (List Decoration),
      (timeline.instant now inputs).renders = timeline.renders ++ shown.map (now, ·)) ∧
      (timeline.instant now inputs).queries =
        timeline.queries ++ (timeline.drawn now inputs).editor.palette.sent.map (now, ·) := by
  have last : timeline.instant now inputs = (timeline.drawn now inputs).answer now := rfl
  obtain ⟨_, renders, queries⟩ := (timeline.drawn now inputs).answer_logs now
  refine ⟨?_, by rw [last, queries, drawn_queries]⟩
  by_cases running : timeline.running = true
  · exact ⟨_, (instant_shows running now inputs).2⟩
  · rw [last, renders, drawn_stopped running]
    exact ⟨[], by simp⟩

/-- A log has got rows of the times from `first` on and before `stop`. -/
def Grows {Row : Type} (first stop : Nat) (before after : List (Nat × Row)) : Prop :=
  ∃ rows, after = before ++ rows ∧ ∀ row ∈ rows, first ≤ row.1 ∧ row.1 < stop

namespace Grows

variable {Row : Type} {first stop : Nat} {before after : List (Nat × Row)}

theorem refl : Grows first stop before before :=
  ⟨[], by simp, by simp⟩

theorem add (grows : Grows first now before after) (order : first ≤ now) (new : List Row) :
    Grows first (now + 1) before (after ++ new.map (now, ·)) := by
  obtain ⟨rows, rfl, times⟩ := grows
  refine ⟨rows ++ new.map (now, ·), List.append_assoc .., fun row member => ?_⟩
  rcases List.mem_append.mp member with early | late
  · exact ⟨(times row early).1, Nat.lt_succ_of_lt (times row early).2⟩
  · obtain ⟨_, _, rfl⟩ := List.mem_map.mp late
    exact ⟨order, Nat.lt_succ_self now⟩

/-- What a log has for an instant is what was added then. -/
theorem filter_eq (early : Grows first now [] before) {new : List Row}
    (late : Grows (now + 1) stop (before ++ new.map (now, ·)) after) :
    after.filter (·.1 = now) = new.map (now, ·) := by
  obtain ⟨_, rfl, oldTimes⟩ := early
  obtain ⟨later, rfl, laterTimes⟩ := late
  have noOld : before.filter (·.1 = now) = [] := by
    rw [List.filter_eq_nil_iff]
    intro row member
    have := (oldTimes row member).2
    simpa using by omega
  have noLater : later.filter (·.1 = now) = [] := by
    rw [List.filter_eq_nil_iff]
    intro row member
    have := (laterTimes row member).1
    simpa using by omega
  have all : (new.map (now, ·)).filter (·.1 = now) = new.map (now, ·) := by
    rw [List.filter_eq_self]
    simp
  rw [List.filter_append, List.filter_append, noOld, noLater, all, List.nil_append, List.append_nil]

end Grows

theorem Leads.grows {first stop : Nat} {before after : Timeline} {heard : List (Nat × Impulse)}
    (leads : Leads first before heard stop after) :
    first ≤ stop ∧ Grows first stop before.renders after.renders ∧ Grows first stop before.queries after.queries := by
  induction leads with
  | start => exact ⟨Nat.le_refl first, .refl, .refl⟩
  | unheard _ ih => exact ih
  | @instant heard now timeline inputs _ ih =>
    obtain ⟨order, renders, queries⟩ := ih
    obtain ⟨⟨shown, more⟩, others⟩ := timeline.instant_logs now inputs
    rw [more, others]
    exact ⟨Nat.le_succ_of_le order, renders.add order _, queries.add order _⟩

/-- What the editor takes in during some instants of a schedule. -/
def heardBetween (timeline : Timeline) (schedule : List Scheduled) (first count : Nat) : List (Nat × Impulse) :=
  (List.range' first count).flatMap fun now =>
    ((timeline.before schedule now).taken (inputsAt schedule now) ++
      (timeline.before schedule now).answered now (inputsAt schedule now)).map (now, ·)

theorem leads_before (timeline : Timeline) (schedule : List Scheduled) (first count : Nat) :
    Leads first (timeline.before schedule first) (timeline.heardBetween schedule first count) (first + count)
      (timeline.before schedule (first + count)) := by
  induction count with
  | zero => exact .start
  | succ count ih =>
    rw [heardBetween, List.range'_1_concat, List.flatMap_append, List.flatMap_singleton, ← Nat.add_assoc, before_succ]
    exact ih.instant (inputsAt schedule (first + count))

theorem grows_before (timeline : Timeline) (schedule : List Scheduled) {first last : Nat} (order : first ≤ last) :
    Grows first last (timeline.before schedule first).renders (timeline.before schedule last).renders ∧
      Grows first last (timeline.before schedule first).queries (timeline.before schedule last).queries := by
  obtain ⟨count, rfl⟩ := Nat.exists_eq_add_of_le order
  exact (timeline.leads_before schedule first count).grows.2

/-- Where nobody answers, events are all that is heard. -/
theorem heardBetween_schedule (palette : Palette) (events : List (Nat × EditorEvent)) (first count : Nat) :
    (start palette none).heardBetween (schedule events) first count =
      (List.range' first count).flatMap fun now =>
        (events.filter (·.1 = now)).map fun event => (now, .event event.2) := by
  have unclosed : ∀ item ∈ schedule events, item.input ≠ .closeRenders := by
    intro item member
    obtain ⟨_, _, rfl⟩ := List.mem_map.mp member
    simp
  have watched : (start palette none).Watched := ⟨rfl, rfl⟩
  have taken (now : Nat) : ((start palette none).before (schedule events) now).taken
      (inputsAt (schedule events) now) = (events.filter (·.1 = now)).map fun event => .event event.2 := by
    have noColors : ((start palette none).before (schedule events) now).colorsSent
        (inputsAt (schedule events) now) = [] := by
      simp [colorsSent, inputsAt_schedule, List.takeWhile_map, List.filterMap_map, Function.comp_def, Input.color?]
    rw [taken, if_pos (watched.before unclosed now).running, noColors, inputsAt_schedule]
    simp [List.filterMap_map, Function.comp_def, Input.event?]
  have answered (now : Nat) : ((start palette none).before (schedule events) now).answered now
      (inputsAt (schedule events) now) = [] := by
    have unanswered : (start palette none).arrivals (schedule events) now = _ := arrivals_unanswered unclosed now
    rw [arrivals, List.append_right_eq_self, List.map_eq_nil_iff] at unanswered
    simp [answered, unanswered]
  simp [heardBetween, taken, answered, Function.comp_def]

end Timeline

end ThemeSense
