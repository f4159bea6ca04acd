import ThemeSense.Proofs.Editor.Course
import ThemeSense.Proofs.Editor.Repeating

namespace ThemeSense.Timeline

section Window

open Editor (configRenderDelay refreshDelay)

variable {timeline : Timeline} {schedule : List Scheduled} {changed : Nat}
  (watched : timeline.Watched) (unclosed : ∀ item ∈ schedule, item.input ≠ .closeRenders)
  (last : (timeline.arrivals schedule changed).getLast? = some (.event .configChanged))
  (quiet : ∀ now, changed < now → now ≤ changed + configRenderDelay → timeline.arrivals schedule now = [])

include watched unclosed last

theorem renderAt_of_change :
    (timeline.before schedule (changed + 1)).editor.renderAt = some (changed + configRenderDelay) := by
  obtain ⟨isLast, noColors, noAnswers⟩ := last_of_arrivals last
  have received : ((timeline.before schedule changed).receiveAll changed (inputsAt schedule changed)).editor.renderAt =
      some (changed + configRenderDelay) :=
    receiveAll_renderAt (watched.before unclosed changed).running isLast noColors
  have passes := watched.passes unclosed changed
  rw [passes.editor, noAnswers]
  exact (Editor.fire_early received (by simp [configRenderDelay])).1

include quiet

/-- After a change the document is to be drawn at its own time. -/
theorem renderAt_within {now : Nat} (after : changed < now) (within : now ≤ changed + configRenderDelay) :
    (timeline.before schedule now).editor.renderAt = some (changed + configRenderDelay) := by
  induction after with
  | refl => exact renderAt_of_change watched unclosed last
  | @step now after ih =>
    have set := ih (Nat.le_of_succ_le within)
    rw [(watched.passes_quiet unclosed (quiet now after (Nat.le_of_succ_le within))).2.1]
    exact (Editor.fire_early set within).1

/-- Until the repetition that was planned, if there is one, nothing is drawn after a change. -/
theorem idle_within {now : Nat} (after : changed < now) (within : now ≤ changed + configRenderDelay)
    (unrepeated : ∀ time, (timeline.before schedule (changed + 1)).editor.refreshAt = some time → now ≤ time) :
    (timeline.before schedule now).renders = (timeline.before schedule (changed + 1)).renders ∧
      (timeline.before schedule now).editor.refreshAt =
        (timeline.before schedule (changed + 1)).editor.refreshAt := by
  induction after with
  | refl => exact ⟨rfl, rfl⟩
  | @step now after ih =>
    obtain ⟨renders, refreshAt⟩ := ih (Nat.le_of_succ_le within) fun time set => Nat.le_of_succ_le (unrepeated time set)
    have set := renderAt_within watched unclosed last quiet after (Nat.le_of_succ_le within)
    have notDue : ¬ Editor.isDue (timeline.before schedule now).editor.refreshAt now = true := by
      rw [refreshAt, Editor.isDue_iff]
      rintro ⟨time, planned, past⟩
      have := unrepeated time planned
      omega
    obtain ⟨nothing, same⟩ := (Editor.fire_early set within).2.2 notDue
    obtain ⟨next, _, planned⟩ := watched.passes_quiet unclosed (quiet now after (Nat.le_of_succ_le within))
    rw [next, planned, nothing, same, renders, refreshAt]
    exact ⟨by simp, rfl⟩

/-- A repetition that was planned before the change is not given up for it. -/
theorem repeated_within {time : Nat}
    (planned : (timeline.before schedule (changed + 1)).editor.refreshAt = some time)
    (after : changed < time) (within : time < changed + configRenderDelay) :
    ∃ drawn, (time, drawn) ∈ (timeline.before schedule (time + 1)).renders := by
  obtain ⟨_, refreshAt⟩ := idle_within watched unclosed last quiet after within.le
    fun other same => by cases planned.symm.trans same; exact Nat.le_refl time
  have set := renderAt_within watched unclosed last quiet after within.le
  have due : Editor.isDue (timeline.before schedule time).editor.refreshAt time = true :=
    Editor.isDue_iff.mpr ⟨time, refreshAt.trans planned, Nat.le_refl time⟩
  obtain ⟨drawn, fires⟩ := (Editor.fire_early set within).2.1 due
  refine ⟨drawn, ?_⟩
  rw [(watched.passes_quiet unclosed (quiet time after within.le)).1, fires]
  simp

theorem drawn_at_delay :
    ∃ drawn others, (timeline.before schedule (changed + configRenderDelay + 1)).renders =
        (timeline.before schedule (changed + configRenderDelay)).renders ++
          (drawn :: others).map (changed + configRenderDelay, ·) ∧
      ((timeline.before schedule (changed + 1)).editor.refreshAt = none → others = []) := by
  have after : changed < changed + configRenderDelay := by simp [configRenderDelay]
  have set := renderAt_within watched unclosed last quiet after (Nat.le_refl _)
  obtain ⟨renders, _⟩ := watched.passes_quiet unclosed (quiet _ after (Nat.le_refl _))
  obtain ⟨some, once⟩ := Editor.fire_due set
  obtain ⟨drawn, others, fires⟩ := List.exists_cons_of_ne_nil some
  refine ⟨drawn, others, by rw [renders, fires], fun unplanned => ?_⟩
  obtain ⟨_, refreshAt⟩ := idle_within watched unclosed last quiet after (Nat.le_refl _) (by simp [unplanned])
  obtain ⟨single, alone⟩ := once (refreshAt.trans unplanned)
  rw [fires, List.cons.injEq] at alone
  exact alone.2

end Window

section Run

open Editor (configRenderDelay refreshDelay)

variable {palette : Palette} {theme : Option Theme} {schedule : List Scheduled}
  (unclosed : ∀ item ∈ schedule, item.input ≠ .closeRenders)

include unclosed

theorem unplanned_iff {changed stop : Nat} (long : changed < stop) :
    ((start palette theme).before schedule (changed + 1)).editor.refreshAt = none ↔
      ∀ time name, (time, .one name) ∈ ((start palette theme).run schedule stop).queries.drop palette.sent.length →
        time ≤ changed → time + refreshDelay ≤ changed := by
  obtain ⟨asked, log, _, repeats⟩ := repeats_after unclosed palette theme changed
  obtain ⟨rows, more, later⟩ := ((start palette theme).grows_before schedule long).2
  have queries : ((start palette theme).run schedule stop).queries.drop palette.sent.length = asked ++ rows := by
    rw [run, (receiveAll_takes _ _ _).queries, more, log, List.append_assoc]
    exact List.drop_left' (List.length_map _)
  rw [queries]
  constructor
  · intro unplanned time name member early
    rcases List.mem_append.mp member with before | after
    · by_contra late
      obtain ⟨_, planned, _⟩ := repeats.planned time name before (by omega)
      cases planned.symm.trans unplanned
    · have := (later _ after).1
      omega
  · intro answered
    cases planned : ((start palette theme).before schedule (changed + 1)).editor.refreshAt with
    | none => rfl
    | some time =>
      obtain ⟨future, begun, name, member, rfl⟩ := repeats.origin time planned
      have := answered begun name (List.mem_append_left rows member) (repeats.past _ member)
      omega

theorem recent_of_planned {changed time : Nat}
    (planned : ((start palette theme).before schedule (changed + 1)).editor.refreshAt = some time) :
    changed < time ∧ time ≤ changed + refreshDelay := by
  obtain ⟨asked, _, _, repeats⟩ := repeats_after unclosed palette theme changed
  obtain ⟨future, begun, _, member, rfl⟩ := repeats.origin time planned
  exact ⟨future, Nat.add_le_add_right (repeats.past _ member) refreshDelay⟩

variable {changed stop : Nat}
  (last : ((start palette theme).arrivals schedule changed).getLast? = some (.event .configChanged))
  (quiet : ∀ now, changed < now → now ≤ changed + configRenderDelay → (start palette theme).arrivals schedule now = [])
  (long : changed + configRenderDelay < stop)

include last quiet long

/-- A repetition that was planned is drawn too early for the change. -/
theorem repeated_after_change {time : Nat}
    (planned : ((start palette theme).before schedule (changed + 1)).editor.refreshAt = some time) :
    ∃ drawn, (time, drawn) ∈ ((start palette theme).run schedule stop).renders := by
  have watched : (start palette theme).Watched := ⟨rfl, rfl⟩
  have delays : configRenderDelay = 1500 ∧ refreshDelay = 1000 := by decide
  obtain ⟨future, recent⟩ := recent_of_planned unclosed planned
  obtain ⟨drawn, shown⟩ := repeated_within watched unclosed last quiet planned future (by omega)
  obtain ⟨_, kept, _⟩ := ((start palette theme).grows_before schedule (show time + 1 ≤ stop by omega)).1
  rw [run, (receiveAll_takes _ _ _).renders, kept]
  exact ⟨drawn, List.mem_append_left _ shown⟩

theorem drawn_after_change :
    ∃ drawn, (changed + configRenderDelay, drawn) ∈ ((start palette theme).run schedule stop).renders := by
  have watched : (start palette theme).Watched := ⟨rfl, rfl⟩
  obtain ⟨drawn, _, renders, _⟩ := drawn_at_delay watched unclosed last quiet
  obtain ⟨_, kept, _⟩ := ((start palette theme).grows_before schedule long).1
  rw [run, (receiveAll_takes _ _ _).renders, kept, renders]
  exact ⟨drawn, by simp⟩

/-- When no repetition was planned, the document is drawn once, at the delay of the change. -/
theorem drawn_once_after_change
    (unplanned : ((start palette theme).before schedule (changed + 1)).editor.refreshAt = none) :
    ∃ drawn, ((start palette theme).run schedule stop).renders.filter
        (fun row => changed < row.1 ∧ row.1 ≤ changed + configRenderDelay) =
      [(changed + configRenderDelay, drawn)] := by
  have watched : (start palette theme).Watched := ⟨rfl, rfl⟩
  have positive : 0 < configRenderDelay := by decide
  obtain ⟨drawn, others, renders, once⟩ := drawn_at_delay watched unclosed last quiet
  have idle := (idle_within watched unclosed last quiet (by omega) (Nat.le_refl _) (by simp [unplanned])).1
  -- What was drawn up to the change and what is drawn after its delay has another time.
  obtain ⟨_, first, before⟩ := ((start palette theme).grows_before schedule (Nat.zero_le (changed + 1))).1
  have noneBefore : ((start palette theme).before schedule (changed + 1)).renders.filter
      (fun row => changed < row.1 ∧ row.1 ≤ changed + configRenderDelay) = [] := by
    rw [List.filter_eq_nil_iff, first]
    intro row member
    have := (before row member).2
    simpa using by omega
  obtain ⟨rows, more, after⟩ := ((start palette theme).grows_before schedule long).1
  have noneAfter : rows.filter (fun row => changed < row.1 ∧ row.1 ≤ changed + configRenderDelay) = [] := by
    rw [List.filter_eq_nil_iff]
    intro row member
    have := (after row member).1
    simpa using by omega
  refine ⟨drawn, ?_⟩
  rw [run, (receiveAll_takes _ _ _).renders, more, renders, idle, once unplanned, List.filter_append,
    List.filter_append, noneBefore, noneAfter]
  simp [positive]

end Run

/-- A change of the config is waited out: when nothing arrives for a second and a half after it, the
document is drawn at the end of that time. It is not drawn before, unless a drawing in the second up to
the change has asked about a color, for then it is repeated. -/
theorem config_change_waited_out (palette : Palette) (theme : Option Theme) (schedule : List Scheduled)
    (unclosed : ∀ item ∈ schedule, item.input ≠ .closeRenders) (changed stop : Nat)
    (last : ((start palette theme).arrivals schedule changed).getLast? = some (.event .configChanged))
    (quiet : ∀ now, changed < now → now ≤ changed + 1500 → (start palette theme).arrivals schedule now = [])
    (long : changed + 1500 < stop) :
    (∃ drawn, (changed + 1500, drawn) ∈ ((start palette theme).run schedule stop).renders) ∧
      ((∃ drawn, ((start palette theme).run schedule stop).renders.filter
          (fun row => changed < row.1 ∧ row.1 ≤ changed + 1500) = [(changed + 1500, drawn)]) ↔
        ∀ time name,
          (time, .one name) ∈ ((start palette theme).run schedule stop).queries.drop palette.sent.length →
          time ≤ changed → time + 1000 ≤ changed) := by
  refine ⟨drawn_after_change unclosed last quiet long, ?_⟩
  refine Iff.trans ⟨?_, drawn_once_after_change unclosed last quiet long⟩ (unplanned_iff unclosed (by omega))
  rintro ⟨single, alone⟩
  cases planned : ((start palette theme).before schedule (changed + 1)).editor.refreshAt with
  | none => rfl
  | some time =>
    obtain ⟨future, recent⟩ := recent_of_planned unclosed planned
    obtain ⟨drawn, shown⟩ := repeated_after_change unclosed last quiet long planned
    have delay : Editor.refreshDelay = 1000 := by decide
    have found : (time, drawn) ∈ ((start palette theme).run schedule stop).renders.filter
        (fun row => changed < row.1 ∧ row.1 ≤ changed + 1500) :=
      List.mem_filter.mpr ⟨shown, by simpa using ⟨future, by omega⟩⟩
    rw [alone, List.mem_singleton, Prod.mk.injEq] at found
    omega

/-- A change while the first drawing is planned: that drawing is put off. -/
theorem config_change_waited_out_over_edit :
    let events := [(0, .edited "@color fg brand".toList), (100, .configChanged)]
    ∀ stop, 1600 < stop → ∃ drawn, ((start .empty none).run (schedule events) stop).renders.filter
      (fun row => 100 < row.1 ∧ row.1 ≤ 1600) = [(1600, drawn)] := by
  intro events stop long
  have unclosed : ∀ item ∈ schedule events, item.input ≠ .closeRenders := by simp [events, schedule]
  have ends : ∀ event ∈ events, event.1 ≤ 100 := by simp [events]
  refine (config_change_waited_out .empty none (schedule events) unclosed 100 stop ?_ ?_ long).2.mpr ?_
  · rw [arrivals_unanswered unclosed]
    rfl
  · intro now after _
    rw [arrivals_unanswered unclosed, inputsAt_after ends after]
    rfl
  · exact (unplanned_iff unclosed (by omega)).mp (by decide +kernel)

/-- The document is drawn at 200 and asks about a color, so that it is drawn again at 1200, although the
config changes at 210. -/
theorem repeated_in_spite_of_change :
    let events := [(0, .edited "@color fg brand".toList), (210, .configChanged)]
    ((start .empty none).arrivals (schedule events) 210).getLast? = some (.event .configChanged) ∧
      (∀ now, 210 < now → now ≤ 1710 → (start .empty none).arrivals (schedule events) now = []) ∧
      ∃ drawn, (1200, drawn) ∈ ((start .empty none).run (schedule events) 1711).renders := by
  intro events
  have unclosed : ∀ item ∈ schedule events, item.input ≠ .closeRenders := by simp [events, schedule]
  have ends : ∀ event ∈ events, event.1 ≤ 210 := by simp [events]
  have last : ((start .empty none).arrivals (schedule events) 210).getLast? = some (.event .configChanged) := by
    rw [arrivals_unanswered unclosed]
    rfl
  have quiet : ∀ now, 210 < now → now ≤ 1710 → (start .empty none).arrivals (schedule events) now = [] := by
    intro now after _
    rw [arrivals_unanswered unclosed, inputsAt_after ends after]
    rfl
  have planned : ((start .empty none).before (schedule events) (210 + 1)).editor.refreshAt = some 1200 := by
    decide +kernel
  exact ⟨last, quiet, repeated_after_change unclosed last quiet (Nat.lt_succ_self 1710) planned⟩

end ThemeSense.Timeline
