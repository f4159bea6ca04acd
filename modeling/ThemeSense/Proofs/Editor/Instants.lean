import Mathlib.Data.List.Induction
import ThemeSense.Proofs.Editor.Settling

namespace ThemeSense

/-- How long after an event the document is drawn. -/
def EditorEvent.delay : EditorEvent → Nat
  | .ready => Editor.startupDelay
  | .edited _ => Editor.quietDelay
  | .configChanged => Editor.configRenderDelay

namespace Editor

theorem receive_renderAt (editor : Editor) (now : Nat) (event : EditorEvent) :
    (editor.receive now event).renderAt = some (now + event.delay) := by
  cases event <;> rfl

/-- What the three timers do at one instant: what they draw, and the editor after them. -/
def fire (editor : Editor) (now : Nat) : List (List Decoration) × Editor :=
  let first := (editor.askAllIfDue now).renderIfDue now
  let second := first.2.refreshIfDue now
  (first.1.toList ++ second.1.toList, second.2)

end Editor

namespace Timeline

def isEvent : Input → Bool
  | .event _ => true
  | _ => false

def isColor : Input → Bool
  | .color _ => true
  | _ => false

/-- One instant up to the answers to what was asked in it. -/
def drawn (timeline : Timeline) (now : Nat) (inputs : List Input) : Timeline :=
  (((timeline.receiveAll now inputs).askAll now).render now).refresh now

/-- The colors that answer what has been sent. -/
def handed (timeline : Timeline) : List NamedValue :=
  timeline.theme.elim [] fun theme => (theme.answers timeline.editor.palette.sent).1

/-- What reaches the editor at one instant: events, colors, and then the answers to what it asked. -/
def arrivals (timeline : Timeline) (schedule : List Scheduled) (now : Nat) : List Input :=
  (inputsAt schedule now).filter isEvent ++ (inputsAt schedule now).filter isColor ++
    ((timeline.before schedule now).drawn now (inputsAt schedule now)).handed.map .color

/-- Somebody looks at what the timeline draws. -/
structure Watched (timeline : Timeline) : Prop where
  running : timeline.running = true
  rendersOpen : timeline.rendersOpen = true

/-- What taking inputs in leaves as it was: they send, draw and repeat nothing by themselves. -/
structure Takes (before after : Timeline) : Prop where
  theme : after.theme = before.theme
  running : after.running = before.running
  queries : after.queries = before.queries
  renders : after.renders = before.renders
  sent : after.editor.palette.sent = before.editor.palette.sent
  refreshAt : after.editor.refreshAt = before.editor.refreshAt

variable {timeline : Timeline} {now : Nat} {inputs : List Input}

theorem receive_takes (timeline : Timeline) (now : Nat) (input : Input) :
    Takes timeline (timeline.receive now input) := by
  cases input with
  | event event => cases event <;> exact ⟨rfl, rfl, rfl, rfl, rfl, rfl⟩
  | color color =>
    simp only [Timeline.receive]
    split
    · exact ⟨rfl, rfl, rfl, rfl, (Palette.learn_sent timeline.editor.palette color).1, rfl⟩
    · exact ⟨rfl, rfl, rfl, rfl, rfl, rfl⟩
  | closeColors => exact ⟨rfl, rfl, rfl, rfl, rfl, rfl⟩
  | closeRenders => exact ⟨rfl, rfl, rfl, rfl, rfl, rfl⟩

/-- What each of the inputs preserves, they preserve together. -/
theorem receiveAll_preserves (holds : Timeline → Prop)
    (step : ∀ timeline, holds timeline → ∀ input ∈ inputs, holds (timeline.receive now input))
    (initial : holds timeline) : holds (timeline.receiveAll now inputs) := by
  unfold Timeline.receiveAll
  split
  · refine List.foldlRecOn _ _ initial fun current held input member => step current held input ?_
    simp only [List.mem_append, List.mem_filter] at member
    exact member.elim And.left And.left
  · exact initial

theorem receiveAll_takes (timeline : Timeline) (now : Nat) (inputs : List Input) :
    Takes timeline (timeline.receiveAll now inputs) := by
  refine receiveAll_preserves (Takes timeline) (fun current taken input _ => ?_) ⟨rfl, rfl, rfl, rfl, rfl, rfl⟩
  have next := current.receive_takes now input
  exact ⟨next.theme.trans taken.theme, next.running.trans taken.running, next.queries.trans taken.queries,
    next.renders.trans taken.renders, next.sent.trans taken.sent, next.refreshAt.trans taken.refreshAt⟩

/-- Inputs without events and colors do not reach the editor. -/
theorem receiveAll_editor (noEvents : inputs.filter isEvent = []) (noColors : inputs.filter isColor = []) :
    (timeline.receiveAll now inputs).editor = timeline.editor := by
  rw [List.filter_eq_nil_iff] at noEvents noColors
  refine receiveAll_preserves (·.editor = timeline.editor) (fun current same input member => ?_) rfl
  cases input with
  | event event => exact absurd rfl (noEvents _ member)
  | color color => exact absurd rfl (noColors _ member)
  | closeColors => exact same
  | closeRenders => exact same

theorem foldl_receive_renderAt (timeline : Timeline) (now : Nat) {event : EditorEvent}
    (last : (inputs.filter isEvent).getLast? = some (.event event))
    (noColors : ∀ input ∈ inputs, isColor input = false) :
    (inputs.foldl (·.receive now ·) timeline).editor.renderAt = some (now + event.delay) := by
  induction inputs using List.reverseRecOn with
  | nil => cases last
  | append_singleton inputs input ih =>
    rw [List.foldl_append, List.foldl_cons, List.foldl_nil]
    rw [List.filter_append] at last
    obtain ⟨others, here⟩ := List.forall_mem_append.mp noColors
    cases input with
    | event final =>
      have same : final = event := by simpa [List.filter, isEvent] using last
      rw [← same]
      exact Editor.receive_renderAt _ now final
    | color color => cases here _ (List.mem_singleton_self _)
    | closeColors => exact ih (by simpa [List.filter, isEvent] using last) others
    | closeRenders => exact ih (by simpa [List.filter, isEvent] using last) others

/-- The last event of an instant decides when the document is drawn. -/
theorem receiveAll_renderAt (running : timeline.running = true) {event : EditorEvent}
    (last : (inputs.filter isEvent).getLast? = some (.event event)) (noColors : inputs.filter isColor = []) :
    (timeline.receiveAll now inputs).editor.renderAt = some (now + event.delay) := by
  rw [receiveAll, if_pos running]
  refine foldl_receive_renderAt timeline now ?_ fun input member => ?_
  · have events : (inputs.filter (!concernsColors ·)).filter isEvent = inputs.filter isEvent := by
      rw [List.filter_filter]
      exact List.filter_congr fun input _ => by cases input <;> rfl
    have others : (inputs.filter concernsColors).filter isEvent = [] := by
      rw [List.filter_filter, List.filter_eq_nil_iff]
      intro input _
      cases input <;> simp [isEvent, concernsColors]
    rw [List.filter_append, events, others, List.append_nil, last]
  · simp only [List.mem_append, List.mem_filter] at member
    exact Bool.eq_false_iff.mpr (List.filter_eq_nil_iff.mp noColors input (member.elim And.left And.left))

theorem Watched.receiveAll (watched : timeline.Watched) (unclosed : .closeRenders ∉ inputs) :
    (timeline.receiveAll now inputs).Watched := by
  refine receiveAll_preserves Watched (fun current watched input member => ?_) watched
  refine ⟨(current.receive_takes now input).running.trans watched.running, ?_⟩
  cases input with
  | event event => exact watched.rendersOpen
  | color color =>
    simp only [Timeline.receive]
    split <;> exact watched.rendersOpen
  | closeColors => exact watched.rendersOpen
  | closeRenders => exact absurd member unclosed

theorem present_eq (rendersOpen : timeline.rendersOpen = true) (result : Option (List Decoration) × Editor) :
    timeline.present now result = { timeline with
      editor := result.2, renders := timeline.renders ++ result.1.toList.map (now, ·) } := by
  obtain ⟨drawn?, editor⟩ := result
  cases drawn? with
  | none => simp [Timeline.present]
  | some drawn => simp [Timeline.present, rendersOpen]

/-- While somebody looks, an instant takes its inputs in and lets the timers fire. -/
theorem Watched.drawn_eq (watched : timeline.Watched) (unclosed : .closeRenders ∉ inputs) :
    timeline.drawn now inputs = { timeline.receiveAll now inputs with
      editor := ((timeline.receiveAll now inputs).editor.fire now).2
      renders := timeline.renders ++ ((timeline.receiveAll now inputs).editor.fire now).1.map (now, ·) } := by
  have received : (timeline.receiveAll now inputs).Watched := watched.receiveAll unclosed
  have renders := (timeline.receiveAll_takes now inputs).renders
  unfold drawn
  generalize timeline.receiveAll now inputs = taken at received renders
  obtain ⟨running, rendersOpen⟩ := received
  rw [askAll, if_pos running, Timeline.render, if_pos running, present_eq, Timeline.refresh, if_pos running, present_eq]
  · simp [Editor.fire, renders]
  · exact rendersOpen
  · exact rendersOpen

theorem answer_eq (running : timeline.running = true) : timeline.answer now = { timeline with
    editor := timeline.handed.foldl (·.learn now ·)
      { timeline.editor with palette := { timeline.editor.palette with sent := [] } }
    theme := timeline.theme.map fun theme => (theme.answers timeline.editor.palette.sent).2
    queries := timeline.queries ++ timeline.editor.palette.sent.map (now, ·) } := by
  cases answering : timeline.theme with
  | none => simp [answer, handed, Palette.takeSent, answering]
  | some theme => simp [answer, handed, Palette.takeSent, answering, running]

/-- What one instant adds to the logs, and the editor that it leaves. -/
structure Passes (now : Nat) (inputs : List Input) (before after : Timeline) : Prop where
  watched : after.Watched
  theme : after.theme = before.theme.map fun theme =>
    (theme.answers ((before.receiveAll now inputs).editor.fire now).2.palette.sent).2
  renders : after.renders = before.renders ++ ((before.receiveAll now inputs).editor.fire now).1.map (now, ·)
  queries : after.queries =
    before.queries ++ ((before.receiveAll now inputs).editor.fire now).2.palette.sent.map (now, ·)
  editor : after.editor = (before.drawn now inputs).handed.foldl (·.learn now ·)
    { ((before.receiveAll now inputs).editor.fire now).2 with
      palette := { ((before.receiveAll now inputs).editor.fire now).2.palette with sent := [] } }

theorem Watched.instant (watched : timeline.Watched) (unclosed : .closeRenders ∉ inputs) :
    Passes now inputs timeline (timeline.instant now inputs) := by
  have received : (timeline.receiveAll now inputs).Watched := watched.receiveAll unclosed
  have taken := timeline.receiveAll_takes now inputs
  have drawn : timeline.drawn now inputs = _ := watched.drawn_eq unclosed
  have running : (timeline.drawn now inputs).running = true := by
    rw [drawn]
    exact received.running
  have last : timeline.instant now inputs = (timeline.drawn now inputs).answer now := rfl
  rw [last, answer_eq running]
  refine ⟨?_, ?_, ?_, ?_, ?_⟩ <;> rw [drawn]
  · exact ⟨received.running, received.rendersOpen⟩
  · rw [← taken.theme]
  · rw [← taken.queries]

section Run

variable {schedule : List Scheduled}

theorem closeRenders_notMem (unclosed : ∀ item ∈ schedule, item.input ≠ .closeRenders) (now : Nat) :
    .closeRenders ∉ inputsAt schedule now := by
  intro member
  obtain ⟨item, scheduled, closes⟩ := List.mem_map.mp member
  exact unclosed item (List.mem_filter.mp scheduled).1 closes

theorem Watched.before (watched : timeline.Watched) (unclosed : ∀ item ∈ schedule, item.input ≠ .closeRenders)
    (now : Nat) : (timeline.before schedule now).Watched := by
  induction now with
  | zero => exact watched
  | succ now ih =>
    rw [before_succ]
    exact (ih.instant (closeRenders_notMem unclosed now)).watched

theorem Watched.passes (watched : timeline.Watched) (unclosed : ∀ item ∈ schedule, item.input ≠ .closeRenders)
    (now : Nat) :
    Passes now (inputsAt schedule now) (timeline.before schedule now) (timeline.before schedule (now + 1)) := by
  rw [before_succ]
  exact (watched.before unclosed now).instant (closeRenders_notMem unclosed now)

theorem quiet_of_arrivals (none : timeline.arrivals schedule now = []) :
    (inputsAt schedule now).filter isEvent = [] ∧ (inputsAt schedule now).filter isColor = [] ∧
      ((timeline.before schedule now).drawn now (inputsAt schedule now)).handed = [] := by
  simp only [arrivals, List.append_eq_nil_iff, List.map_eq_nil_iff] at none
  exact ⟨none.1.1, none.1.2, none.2⟩

theorem getLast?_before_colors {others colors : List Input} {event : EditorEvent}
    (areColors : ∀ input ∈ colors, isColor input = true)
    (last : (others ++ colors).getLast? = some (.event event)) :
    others.getLast? = some (.event event) ∧ colors = [] := by
  cases ends : colors.getLast? with
  | none =>
    cases List.getLast?_eq_none_iff.mp ends
    exact ⟨by simpa using last, rfl⟩
  | some final =>
    rw [List.getLast?_append, ends] at last
    cases last
    exact absurd (areColors _ (List.mem_of_getLast? ends)) (by simp [isColor])

/-- When the last arrival is an event, no color arrives with it. -/
theorem last_of_arrivals {event : EditorEvent}
    (last : (timeline.arrivals schedule now).getLast? = some (.event event)) :
    ((inputsAt schedule now).filter isEvent).getLast? = some (.event event) ∧
      (inputsAt schedule now).filter isColor = [] ∧
      ((timeline.before schedule now).drawn now (inputsAt schedule now)).handed = [] := by
  obtain ⟨last, noAnswers⟩ := getLast?_before_colors (by simp [isColor]) last
  obtain ⟨last, noColors⟩ := getLast?_before_colors (fun input member => (List.mem_filter.mp member).2) last
  exact ⟨last, noColors, List.map_eq_nil_iff.mp noAnswers⟩

/-- When nothing arrives, only the timers change the editor. -/
theorem Watched.passes_quiet (watched : timeline.Watched)
    (unclosed : ∀ item ∈ schedule, item.input ≠ .closeRenders) (none : timeline.arrivals schedule now = []) :
    (timeline.before schedule (now + 1)).renders = (timeline.before schedule now).renders ++
        ((timeline.before schedule now).editor.fire now).1.map (now, ·) ∧
      (timeline.before schedule (now + 1)).editor.renderAt =
        ((timeline.before schedule now).editor.fire now).2.renderAt ∧
      (timeline.before schedule (now + 1)).editor.refreshAt =
        ((timeline.before schedule now).editor.fire now).2.refreshAt := by
  obtain ⟨noEvents, noColors, noAnswers⟩ := quiet_of_arrivals none
  have passes := watched.passes unclosed now
  rw [passes.renders, passes.editor, receiveAll_editor noEvents noColors, noAnswers]
  exact ⟨rfl, rfl, rfl⟩

/-- Without a theme nothing is answered. -/
theorem arrivals_unanswered {palette : Palette} (unclosed : ∀ item ∈ schedule, item.input ≠ .closeRenders) (now : Nat) :
    (start palette none).arrivals schedule now =
      (inputsAt schedule now).filter isEvent ++ (inputsAt schedule now).filter isColor := by
  have watched : (start palette none).Watched := ⟨rfl, rfl⟩
  have noTheme : ((start palette none).before schedule now).theme = none := by
    induction now with
    | zero => rfl
    | succ now ih => rw [(watched.passes unclosed now).theme, ih, Option.map_none]
  have stillNone : (((start palette none).before schedule now).drawn now (inputsAt schedule now)).theme = none := by
    rw [(watched.before unclosed now).drawn_eq (closeRenders_notMem unclosed now)]
    exact (receiveAll_takes _ _ _).theme.trans noTheme
  simp [arrivals, handed, stillNone]

end Run

end Timeline

end ThemeSense
