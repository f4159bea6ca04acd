import ThemeSense.Editor.Timeline
import ThemeSense.Proofs.Editor.Underway

namespace ThemeSense

def EditorEvent.textAfter (text : List Char) : EditorEvent → List Char
  | .edited changed => changed
  | _ => text

/-- The text of the document after events, the first of which finds it empty. -/
def EditorEvent.lastText (events : List EditorEvent) : List Char :=
  events.foldl textAfter []

theorem Editor.foldl_receive {value? : String → Option String} {now : Nat} {editor : Editor}
    (underway : editor.Underway value? now now 0) (events : List EditorEvent) :
    (events.foldl (·.receive now ·) editor).Underway value? now now 0 ∧
      (events.foldl (·.receive now ·) editor).text = events.foldl EditorEvent.textAfter editor.text ∧
      (editor.renderAt.isSome = true ∨ events ≠ [] →
        (events.foldl (·.receive now ·) editor).renderAt.isSome = true) := by
  induction events generalizing editor with
  | nil => exact ⟨underway, rfl, by simp⟩
  | cons event events ih =>
    obtain ⟨next, text, planned⟩ := ih (underway.receive event)
    have received : (editor.receive now event).text = event.textAfter editor.text ∧
        (editor.receive now event).renderAt.isSome = true := by
      cases event <;> exact ⟨rfl, rfl⟩
    exact ⟨next, text.trans (by rw [received.1, List.foldl_cons]), fun _ => planned (.inl received.2)⟩

namespace Timeline

/-- The schedule on which nothing but events arrives. -/
def schedule (events : List (Nat × EditorEvent)) : List Scheduled :=
  events.map fun (time, event) => ⟨time, .event event⟩

theorem inputsAt_schedule (events : List (Nat × EditorEvent)) (now : Nat) :
    inputsAt (schedule events) now = ((events.filter (·.1 = now)).map (·.2)).map .event := by
  simp [inputsAt, schedule, List.filter_map, Function.comp_def]

theorem receiveAll_events {timeline : Timeline} (running : timeline.running = true) (now : Nat)
    (events : List EditorEvent) : timeline.receiveAll now (events.map .event) =
      { timeline with editor := events.foldl (·.receive now ·) timeline.editor } := by
  have ordered : (events.map Input.event).filter (!concernsColors ·) ++ (events.map Input.event).filter concernsColors =
      events.map .event := by
    simp [List.filter_map, Function.comp_def, concernsColors]
  simp only [Timeline.receiveAll, ordered, if_pos running]
  clear ordered running
  induction events generalizing timeline with
  | nil => rfl
  | cons event events ih => exact ih

theorem receiveAll_nil (timeline : Timeline) (now : Nat) : timeline.receiveAll now [] = timeline := by
  simp [Timeline.receiveAll]

/-- A timeline that nobody has closed, with the theme as it was at first, up to accesses. -/
structure Settling (value? : String → Option String) (base now seen : Nat) (timeline : Timeline) : Prop where
  running : timeline.running = true
  rendersOpen : timeline.rendersOpen = true
  theme : ∃ theme, timeline.theme = some theme ∧ theme.Regular ∧ theme.value? = value?
  editor : timeline.editor.Underway value? base now seen

/-- The settled text has been drawn last, or drawing is planned. -/
def Drawn (value? : String → Option String) (timeline : Timeline) : Prop :=
  timeline.editor.renderAt.isSome = true ∨ timeline.editor.refreshAt.isSome = true ∨
    ∃ earlier time, timeline.renders = earlier ++ [(time, settledDecorations value? timeline.editor.text)]

/-- One phase of an instant: the timeline goes on with the same text, and what was drawn or planned is. -/
structure Continues (value? : String → Option String) (base now seen : Nat) (before after : Timeline) : Prop where
  settling : Settling value? base now seen after
  text : after.editor.text = before.editor.text
  drawn : Drawn value? before → Drawn value? after

theorem Continues.trans {value? : String → Option String} {base now next seen more : Nat} {a b c : Timeline}
    (one : Continues value? base now seen a b) (two : Continues value? base next more b c) :
    Continues value? base next more a c :=
  ⟨two.settling, two.text.trans one.text, two.drawn ∘ one.drawn⟩

namespace Settling

variable {value? : String → Option String} {base now seen next : Nat} {timeline : Timeline}

theorem start {theme : Theme} (regular : theme.Regular) :
    Settling theme.value? base now 0 (Timeline.start .empty (some theme)) :=
  ⟨rfl, rfl, ⟨theme, rfl, regular, rfl⟩, .start⟩

theorem later (settling : Settling value? base now seen timeline) (after : base ≤ next) :
    Settling value? next now seen timeline :=
  ⟨settling.running, settling.rendersOpen, settling.theme, settling.editor.later after⟩

theorem askAll (settling : Settling value? base now 0 timeline) :
    Continues value? base now 1 timeline (timeline.askAll now) := by
  have editor := settling.editor.askAllIfDue
  unfold Timeline.askAll
  rw [if_pos settling.running]
  refine ⟨⟨settling.running, settling.rendersOpen, settling.theme, editor⟩, ?_, ?_⟩ <;>
    unfold Editor.askAllIfDue <;> split
  · rfl
  · rfl
  · exact id
  · exact id

theorem present (settling : Settling value? base now seen timeline) {result : Option (List Decoration) × Editor}
    (draws : Editor.Draws value? base now next timeline.editor result) :
    Continues value? base now next timeline (timeline.present now result) := by
  obtain ⟨drawn?, editor⟩ := result
  obtain ⟨underway, text, idle, shown⟩ := draws
  cases drawn? with
  | none =>
    cases idle rfl
    exact ⟨⟨settling.running, settling.rendersOpen, settling.theme, underway⟩, rfl, id⟩
  | some drawn =>
    simp only [Timeline.present, if_pos settling.rendersOpen]
    refine ⟨⟨settling.running, settling.rendersOpen, settling.theme, underway⟩, text, fun _ => ?_⟩
    rcases shown drawn rfl with rfl | again
    · exact .inr (.inr ⟨timeline.renders, now, by rw [← text]⟩)
    · exact .inr (.inl again)

theorem render (settling : Settling value? base now 1 timeline) :
    Continues value? base now 2 timeline (timeline.render now) := by
  rw [Timeline.render, if_pos settling.running]
  exact settling.present settling.editor.renderIfDue

theorem refresh (settling : Settling value? base now 2 timeline) :
    Continues value? base now 3 timeline (timeline.refresh now) := by
  rw [Timeline.refresh, if_pos settling.running]
  exact settling.present settling.editor.refreshIfDue

theorem answer (settling : Settling value? base now 3 timeline) :
    Continues value? base (now + 1) 0 timeline (timeline.answer now) := by
  obtain ⟨running, rendersOpen, ⟨theme, answering, regular, rfl⟩, editor⟩ := settling
  obtain ⟨_, still, same⟩ := regular.faithful_answers editor.faithful
  simp only [Timeline.answer, Palette.takeSent, answering, if_pos running]
  refine ⟨⟨running, rendersOpen, ⟨_, rfl, still, same⟩, editor.answer regular⟩, ?_, ?_⟩ <;> rw [Editor.foldl_learn]
  rintro (planned | planned | shown)
  · refine .inl ?_
    dsimp only
    split
    · exact planned
    · rfl
  · exact .inr (.inl planned)
  · exact .inr (.inr shown)

theorem receiveAll (settling : Settling value? now now 0 timeline) (events : List EditorEvent) :
    Settling value? now now 0 (timeline.receiveAll now (events.map .event)) ∧
      (timeline.receiveAll now (events.map .event)).editor.text =
        events.foldl EditorEvent.textAfter timeline.editor.text ∧
      (events ≠ [] → Drawn value? (timeline.receiveAll now (events.map .event))) := by
  obtain ⟨underway, text, planned⟩ := Editor.foldl_receive settling.editor events
  rw [receiveAll_events settling.running]
  refine ⟨⟨settling.running, settling.rendersOpen, settling.theme, underway⟩, text, ?_⟩
  exact fun some => .inl (planned (.inr some))

/-- What one instant does after its inputs have been taken in. -/
theorem instant {inputs : List Input} (settling : Settling value? base now 0 (timeline.receiveAll now inputs)) :
    Continues value? base (now + 1) 0 (timeline.receiveAll now inputs) (timeline.instant now inputs) := by
  have asked := settling.askAll
  have drawn := asked.trans asked.settling.render
  have repeated := drawn.trans drawn.settling.refresh
  exact repeated.trans repeated.settling.answer

/-- Once all that was planned is over, nothing is drawn any more. -/
theorem instant_over (settling : Settling value? base now 0 timeline)
    (elapsed : base + Editor.configRenderDelay + Editor.refreshDelay < now) :
    (timeline.instant now []).renders = timeline.renders := by
  have delays : Editor.quietDelay = 200 ∧ Editor.configQueryDelay = 1000 ∧ Editor.configRenderDelay = 1500 ∧
      Editor.refreshDelay = 1000 := by decide
  have noAskAll := settling.editor.askAll.eq_none (by omega)
  have noRender := settling.editor.render.eq_none (by omega)
  have noRefresh := settling.editor.refresh.eq_none elapsed
  have nothing : timeline.instant now [] = timeline.answer now := by
    simp [Timeline.instant, Timeline.receiveAll, Timeline.askAll, Editor.askAllIfDue, Timeline.render,
      Editor.renderIfDue, Timeline.refresh, Editor.refreshIfDue, Timeline.present, Editor.isDue, noAskAll, noRender,
      noRefresh]
  rw [nothing]
  unfold Timeline.answer
  dsimp only
  split <;> rfl

end Settling

theorem before_succ (timeline : Timeline) (schedule : List Scheduled) (stop : Nat) :
    timeline.before schedule (stop + 1) = (timeline.before schedule stop).instant stop (inputsAt schedule stop) := by
  simp [before, List.range_succ]

theorem filter_before_succ {events : List (Nat × EditorEvent)} (ordered : events.Pairwise (·.1 ≤ ·.1)) (now : Nat) :
    events.filter (·.1 < now + 1) = events.filter (·.1 < now) ++ events.filter (·.1 = now) := by
  induction events with
  | nil => rfl
  | cons event events ih =>
    obtain ⟨after, ordered⟩ := List.pairwise_cons.mp ordered
    rcases Nat.lt_or_ge event.1 now with early | late
    · have soon : event.1 < now + 1 := by omega
      have notNow : event.1 ≠ now := by omega
      simp only [List.filter_cons, decide_eq_true_eq, soon, early, notNow, if_true, if_false, ih ordered,
        List.cons_append]
    · have notBefore : ∀ other ∈ event :: events, now ≤ other.1 :=
        List.forall_mem_cons.mpr ⟨late, fun other member => Nat.le_trans late (after other member)⟩
      have noEarlier : (event :: events).filter (·.1 < now) = [] :=
        List.filter_eq_nil_iff.mpr fun other member => by simpa using notBefore other member
      rw [noEarlier, List.nil_append]
      refine List.filter_congr fun other member => decide_eq_decide.mpr ?_
      have := notBefore other member
      omega

section Run

variable {theme : Theme} {events : List (Nat × EditorEvent)}

theorem settling_before (regular : theme.Regular) (ordered : events.Pairwise (·.1 ≤ ·.1)) (now : Nat) :
    Settling theme.value? now now 0 ((start .empty (some theme)).before (schedule events) now) ∧
      ((start .empty (some theme)).before (schedule events) now).editor.text =
        EditorEvent.lastText ((events.filter (·.1 < now)).map (·.2)) := by
  induction now with
  | zero =>
    refine ⟨.start regular, ?_⟩
    simp [before, start, Editor.start, EditorEvent.lastText]
  | succ now ih =>
    obtain ⟨settling, text⟩ := ih
    -- Until the last event has come, each instant may count from itself.
    obtain ⟨received, receivedText, _⟩ := settling.receiveAll ((events.filter (·.1 = now)).map (·.2))
    have continues := received.instant
    rw [before_succ, inputsAt_schedule]
    refine ⟨continues.settling.later (Nat.le_succ now), ?_⟩
    rw [continues.text, receivedText, text, filter_before_succ ordered]
    simp [EditorEvent.lastText]

theorem inputsAt_after {last now : Nat} (ends : ∀ event ∈ events, event.1 ≤ last) (after : last < now) :
    inputsAt (schedule events) now = [] := by
  have none : events.filter (·.1 = now) = [] := by
    rw [List.filter_eq_nil_iff]
    intro event member
    have := ends event member
    simpa using by omega
  rw [inputsAt_schedule, none]
  rfl

theorem settling_after (regular : theme.Regular) (ordered : events.Pairwise (·.1 ≤ ·.1)) {last : Nat × EditorEvent}
    (occurs : last ∈ events) (ends : ∀ event ∈ events, event.1 ≤ last.1) (more : Nat) :
    Settling theme.value? last.1 (last.1 + 1 + more) 0
        ((start .empty (some theme)).before (schedule events) (last.1 + 1 + more)) ∧
      ((start .empty (some theme)).before (schedule events) (last.1 + 1 + more)).editor.text =
        EditorEvent.lastText (events.map (·.2)) ∧
      Drawn theme.value? ((start .empty (some theme)).before (schedule events) (last.1 + 1 + more)) := by
  induction more with
  | zero =>
    obtain ⟨settling, _⟩ := settling_before regular ordered last.1
    obtain ⟨received, _, drawn⟩ := settling.receiveAll ((events.filter (·.1 = last.1)).map (·.2))
    have some : (events.filter (·.1 = last.1)).map (·.2) ≠ [] :=
      List.ne_nil_of_mem (List.mem_map_of_mem (List.mem_filter.mpr ⟨occurs, by simp⟩))
    have all : events.filter (·.1 < last.1 + 1) = events := by
      rw [List.filter_eq_self]
      intro event member
      simpa using Nat.lt_succ_of_le (ends event member)
    have text := (settling_before regular ordered (last.1 + 1)).2
    rw [all] at text
    refine ⟨?_, text, ?_⟩ <;> rw [Nat.add_zero, before_succ, inputsAt_schedule]
    · exact received.instant.settling
    · exact received.instant.drawn (drawn some)
  | succ more ih =>
    obtain ⟨settling, text, drawn⟩ := ih
    rw [← receiveAll_nil (before _ _ _) (last.1 + 1 + more)] at settling drawn text
    -- No input arrives any more, so the count stays with the last event.
    have continues := settling.instant
    rw [← Nat.add_assoc, before_succ, inputsAt_after ends (by omega)]
    exact ⟨continues.settling, continues.text.trans text, continues.drawn drawn⟩

theorem drawn_after (regular : theme.Regular) (ordered : events.Pairwise (·.1 ≤ ·.1)) {last : Nat × EditorEvent}
    (occurs : last ∈ events) (ends : ∀ event ∈ events, event.1 ≤ last.1) {now : Nat} (long : last.1 + 4000 ≤ now) :
    (∃ earlier time, ((start .empty (some theme)).before (schedule events) now).renders =
      earlier ++ [(time, settledDecorations theme.value? (EditorEvent.lastText (events.map (·.2))))]) ∧
    ((start .empty (some theme)).before (schedule events) (now + 1)).renders =
      ((start .empty (some theme)).before (schedule events) now).renders := by
  obtain ⟨more, rfl⟩ : ∃ more, now = last.1 + 1 + more := ⟨now - (last.1 + 1), by omega⟩
  obtain ⟨settling, text, drawn⟩ := settling_after regular ordered occurs ends more
  have delays : Editor.quietDelay = 200 ∧ Editor.configRenderDelay = 1500 ∧ Editor.refreshDelay = 1000 := by decide
  constructor
  · rw [← text]
    rcases drawn with planned | planned | shown
    · simp [settling.editor.render.eq_none (by omega)] at planned
    · simp [settling.editor.refresh.eq_none (by omega)] at planned
    · exact shown
  · rw [before_succ, inputsAt_after ends (by omega)]
    exact settling.instant_over (by omega)

theorem latest_of_ordered (ordered : events.Pairwise (·.1 ≤ ·.1)) {last : Nat × EditorEvent}
    (ends : events.getLast? = some last) : last ∈ events ∧ ∀ event ∈ events, event.1 ≤ last.1 := by
  obtain ⟨others, rfl⟩ := List.getLast?_eq_some_iff.mp ends
  refine ⟨by simp, fun event member => ?_⟩
  rcases List.mem_append.mp member with early | final
  · exact (List.pairwise_append.mp ordered).2.2 event early last (by simp)
  · cases List.mem_singleton.mp final
    exact Nat.le_refl _

/-- Four seconds after the last event nothing is drawn any more. -/
theorem renders_at_rest (regular : theme.Regular) (ordered : events.Pairwise (·.1 ≤ ·.1)) {last : Nat × EditorEvent}
    (occurs : last ∈ events) (latest : ∀ event ∈ events, event.1 ≤ last.1) {stop : Nat} (long : last.1 + 4000 ≤ stop) :
    ((start .empty (some theme)).run (schedule events) stop).renders =
      ((start .empty (some theme)).before (schedule events) (last.1 + 4000)).renders := by
  rw [run, inputsAt_after latest (by omega), receiveAll_nil]
  induction long with
  | refl => rfl
  | step long ih => exact (drawn_after regular ordered occurs latest long).2.trans ih

/-- However events follow one another, the editor comes to rest within four seconds after the last of
them, and what it has drawn last is the last text with each color as the theme has it. -/
theorem comes_to_rest (theme : Theme) (regular : theme.Regular) (events : List (Nat × EditorEvent))
    (ordered : events.Pairwise (·.1 ≤ ·.1)) (last : Nat × EditorEvent) (ends : events.getLast? = some last) :
    ∃ earlier time, ∀ stop, last.1 + 4000 ≤ stop →
      ((start .empty (some theme)).run (schedule events) stop).renders =
        earlier ++ [(time, settledDecorations theme.value? (EditorEvent.lastText (events.map (·.2))))] := by
  obtain ⟨occurs, latest⟩ := latest_of_ordered ordered ends
  obtain ⟨⟨earlier, time, shown⟩, _⟩ := drawn_after regular ordered occurs latest (Nat.le_refl (last.1 + 4000))
  exact ⟨earlier, time, fun stop long => (renders_at_rest regular ordered occurs latest long).trans shown⟩

/-- The config changes between two drawings, and the document right after it. -/
theorem comes_to_rest_after_change :
    let table : ColorTable := ⟨[("brand", .value "#0af"), ("text", .group [("muted", .value "#888")])]⟩
    let text := "a \x7b @color fg text.muted; @color bg red; \x7d".toList
    let events := [(0, .ready), (5, .edited "@color fg brand".toList), (1100, .configChanged), (1150, .edited text)]
    (Theme.ofTable table).Regular ∧ ∃ earlier time, ∀ stop, 5150 ≤ stop →
      ((start .empty (some (Theme.ofTable table))).run (schedule events) stop).renders =
        earlier ++ [(time, [⟨⟨⟨0, 14⟩, ⟨0, 24⟩⟩, "#888"⟩, ⟨⟨⟨0, 36⟩, ⟨0, 39⟩⟩, "#FF0000"⟩])] := by
  intro table text events
  have regular : (Theme.ofTable table).Regular :=
    Theme.ofTable_regular ⟨by simp [table, Table.names], by simp [table, Table.names]⟩
      ⟨by simp [table], by simp [table]⟩
  have shown : settledDecorations (Theme.ofTable table).value? text =
      [⟨⟨⟨0, 14⟩, ⟨0, 24⟩⟩, "#888"⟩, ⟨⟨⟨0, 36⟩, ⟨0, 39⟩⟩, "#FF0000"⟩] := by decide +kernel
  rw [← shown]
  exact ⟨regular, comes_to_rest (Theme.ofTable table) regular events (by decide) (1150, .edited text) rfl⟩

/-- So it does with the theme of any script that has no dot in a name. -/
theorem rests_on_script {script : String} (loaded : Theme.ofScript script = .ok theme) (undotted : theme.Undotted)
    (ordered : events.Pairwise (·.1 ≤ ·.1)) {last : Nat × EditorEvent} (ends : events.getLast? = some last) :
    ∃ earlier time, ∀ stop, last.1 + 4000 ≤ stop →
      ((start .empty (some theme)).run (schedule events) stop).renders =
        earlier ++ [(time, settledDecorations theme.value? (EditorEvent.lastText (events.map (·.2))))] := by
  have regular := Theme.ofScript_regular loaded undotted
  obtain ⟨occurs, latest⟩ := latest_of_ordered ordered ends
  obtain ⟨⟨earlier, time, shown⟩, _⟩ := drawn_after regular ordered occurs latest (Nat.le_refl (last.1 + 4000))
  exact ⟨earlier, time, fun stop long => (renders_at_rest regular ordered occurs latest long).trans shown⟩

end Run

end Timeline

end ThemeSense
