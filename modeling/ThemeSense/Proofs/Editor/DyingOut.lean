import ThemeSense.Proofs.Editor.Course

namespace ThemeSense

namespace Palette

variable {palette after : Palette} {text : List Char}

/-- A pass asks exactly if somebody is there to be asked and something is left to ask about. -/
theorem asks_iff : 0 < (palette.decorate text).1.asked ↔ palette.connected = true ∧ ¬ palette.CoversText text := by
  obtain ⟨queries, passed⟩ := palette.decorate_passed text
  constructor
  · intro asks
    refine ⟨?_, fun covers => ?_⟩
    · by_contra unheard
      have := (decorate_disconnected (by simpa using unheard) text).2
      omega
    · have none := passed.unneeded covers
      rw [passed.count, none] at asks
      exact absurd asks (Nat.lt_irrefl 0)
  · rintro ⟨connected, uncovered⟩
    rw [passed.count, List.length_pos_iff]
    rintro rfl
    have covered : (palette.decorate text).2.CoversText text := fun mention member isTheme =>
      passed.covers connected mention member isTheme (Mention.name_of_theme member isTheme).2
    rw [passed.asked.eq_of_nil] at covered
    exact uncovered covered

/-- A pass leaves nothing to ask about to the next one. -/
theorem decorate_once (palette : Palette) (text : List Char) :
    ¬ 0 < ((palette.decorate text).2.decorate text).1.asked := by
  obtain ⟨queries, passed⟩ := palette.decorate_passed text
  rw [asks_iff]
  rintro ⟨connected, uncovered⟩
  refine uncovered fun mention member isTheme => ?_
  exact passed.covers (passed.asked.connected.symm.trans connected) mention member isTheme
    (Mention.name_of_theme member isTheme).2

/-- Queries leave nothing more to ask about than there was. -/
theorem asks_of_asked {queries : List ColorQuery} (asked : palette.Asked queries after)
    (asks : 0 < (after.decorate text).1.asked) : 0 < (palette.decorate text).1.asked := by
  rw [asks_iff] at asks ⊢
  exact ⟨asked.connected.symm.trans asks.1, fun covers => asks.2 (covers.asked asked)⟩

end Palette

namespace Editor

/-- How often a document can still be drawn when nothing more arrives: once for each timer that is set,
and once more if the next pass has something to ask about. -/
def drawingsLeft (editor : Editor) : Nat :=
  editor.renderAt.toList.length + editor.refreshAt.toList.length +
    if 0 < (editor.palette.decorate editor.text).1.asked then 1 else 0

theorem drawingsLeft_le (editor : Editor) : editor.drawingsLeft ≤ 3 := by
  have render : editor.renderAt.toList.length ≤ 1 := Option.length_toList_le
  have refresh : editor.refreshAt.toList.length ≤ 1 := Option.length_toList_le
  unfold drawingsLeft
  split <;> omega

/-- Drawing by itself uses up what it plans. -/
theorem drawingsLeft_render (editor : Editor) (now : Nat) :
    (editor.render now).2.drawingsLeft ≤ editor.drawingsLeft := by
  have once := editor.palette.decorate_once editor.text
  have after : (editor.render now).2.palette = (editor.palette.decorate editor.text).2 := rfl
  have text : (editor.render now).2.text = editor.text := rfl
  have renderAt : (editor.render now).2.renderAt = editor.renderAt := rfl
  have refreshAt : (editor.render now).2.refreshAt =
    if 0 < (editor.palette.decorate editor.text).1.asked then some (now + refreshDelay) else editor.refreshAt := rfl
  -- either nothing was asked, and nothing changes, or the pass to come now pays for the timer that is set
  rw [drawingsLeft, after, text, renderAt, refreshAt, if_neg once, drawingsLeft]
  split <;> simp

/-- Where the timers and the text stay, only a new thing to ask about can add a drawing. -/
theorem drawingsLeft_mono {editor after : Editor} (renderAt : after.renderAt = editor.renderAt)
    (refreshAt : after.refreshAt = editor.refreshAt)
    (asks : 0 < (after.palette.decorate after.text).1.asked → 0 < (editor.palette.decorate editor.text).1.asked) :
    after.drawingsLeft ≤ editor.drawingsLeft := by
  rw [drawingsLeft, drawingsLeft, renderAt, refreshAt]
  by_cases later : 0 < (after.palette.decorate after.text).1.asked
  · rw [if_pos later, if_pos (asks later)]
  · rw [if_neg later]
    omega

end Editor

namespace Timeline

/-- All that was ever asked, whether it has been taken yet or not. -/
def asked (timeline : Timeline) : List ColorQuery :=
  timeline.queries.map (·.2) ++ timeline.editor.palette.sent

/-- The palette of a timeline as if nothing that it sends were ever taken, and nobody went away. -/
def ledger (timeline : Timeline) : Palette :=
  { timeline.editor.palette with sent := timeline.asked, connected := true }

/-- What is drawn and asked between two states of a timeline is taken from what was left. -/
structure Dwindles (before : Timeline) (drawn : List (Nat × List Decoration)) (queries : List ColorQuery)
    (after : Timeline) : Prop where
  renders : after.renders = before.renders ++ drawn
  asked : before.ledger.Asked queries after.ledger
  left : drawn.length + after.editor.drawingsLeft ≤ before.editor.drawingsLeft
  once : queries.count .all + after.editor.askAllAt.toList.length ≤ before.editor.askAllAt.toList.length

namespace Dwindles

variable {before middle after : Timeline} {drawn more : List (Nat × List Decoration)} {queries others : List ColorQuery}

theorem refl (timeline : Timeline) : Dwindles timeline [] [] timeline :=
  ⟨by simp, .refl _, by simp, by simp⟩

theorem trans (one : Dwindles before drawn queries middle) (two : Dwindles middle more others after) :
    Dwindles before (drawn ++ more) (queries ++ others) after where
  renders := by rw [two.renders, one.renders, List.append_assoc]
  asked := one.asked.trans two.asked
  left := by
    have first := one.left
    have second := two.left
    rw [List.length_append]
    omega
  once := by
    have first := one.once
    have second := two.once
    rw [List.count_append]
    omega

end Dwindles

theorem ledger_asked {before after : Timeline} {queries : List ColorQuery} (same : after.queries = before.queries)
    (asked : before.editor.palette.Asked queries after.editor.palette) : before.ledger.Asked queries after.ledger where
  known := asked.known
  connected := rfl
  sent := by
    simp only [ledger, Timeline.asked, same, asked.sent, List.append_assoc]
  awaited := asked.awaited
  fresh := asked.fresh
  distinct := asked.distinct

variable {timeline : Timeline} {now : Nat} {inputs : List Input}

theorem receiveAll_silent (now : Nat) (silent : timeline.taken inputs = []) :
    Dwindles timeline [] [] (timeline.receiveAll now inputs) := by
  obtain ⟨_, _, queries, renders, _, _⟩ := timeline.receiveAll_takes now inputs
  have editor : (timeline.receiveAll now inputs).editor = timeline.editor := by
    by_cases running : timeline.running = true
    · rw [receiveAll_hears running, silent]
      rfl
    · rw [receiveAll, if_neg running]
  exact ⟨by rw [renders, List.append_nil], ledger_asked queries (editor ▸ .refl _), by simp [editor], by simp [editor]⟩

theorem askAll_dwindles (timeline : Timeline) (now : Nat) :
    ∃ queries, Dwindles timeline [] queries (timeline.askAll now) := by
  by_cases running : timeline.running = true
  · rw [askAll, if_pos running, Editor.askAllIfDue]
    cases deadline : timeline.editor.askAllAt with
    | none => exact ⟨[], by simpa [Editor.isDue] using Dwindles.refl timeline⟩
    | some time =>
      split
      · obtain ⟨queries, asked, single⟩ := timeline.editor.palette.askAll_asked
        refine ⟨queries, by simp, ledger_asked rfl asked, ?_, ?_⟩
        · rw [List.length_nil, Nat.zero_add]
          exact Editor.drawingsLeft_mono rfl rfl (Palette.asks_of_asked asked)
        · rw [deadline]
          rcases single with rfl | rfl <;> simp
      · exact ⟨[], .refl timeline⟩
  · exact ⟨[], by rw [askAll, if_neg running]; exact .refl timeline⟩

/-- A drawing uses up the timer it comes from, and asks about single names only. -/
theorem timer_dwindles (timeline : Timeline) (now : Nat) (deadline : Option Nat) (editor : Editor)
    (palette : editor.palette = timeline.editor.palette) (askAllAt : editor.askAllAt = timeline.editor.askAllAt)
    (fewer : deadline.toList.length + editor.drawingsLeft ≤ timeline.editor.drawingsLeft) :
    ∃ drawn queries, Dwindles timeline drawn queries
      (if timeline.running then
        timeline.present now (if Editor.isDue deadline now then (some (editor.render now).1, (editor.render now).2)
          else (none, timeline.editor))
      else timeline) := by
  split
  · split
    · next due =>
      have isSet : deadline.toList.length = 1 := by
        cases deadline with
        | none => cases due
        | some time => rfl
      obtain ⟨names, asked⟩ := editor.palette.decorate_asked editor.text
      have after : (editor.render now).2.palette = (editor.palette.decorate editor.text).2 := rfl
      have kept : (editor.render now).2.askAllAt = timeline.editor.askAllAt := askAllAt
      have left := editor.drawingsLeft_render now
      have noAll := ColorQuery.count_all_map_one names
      rw [← after, palette] at asked
      have room : 1 + (editor.render now).2.drawingsLeft ≤ timeline.editor.drawingsLeft := by omega
      by_cases rendersOpen : timeline.rendersOpen = true
      · refine ⟨[(now, (editor.render now).1)], names.map .one, ?_⟩
        rw [present, if_pos rendersOpen]
        exact ⟨rfl, ledger_asked rfl asked, room, by simp [noAll, kept]⟩
      · -- nobody looks, so that the timeline stops: the timer is used up without a drawing
        refine ⟨[], names.map .one, ?_⟩
        rw [present, if_neg rendersOpen]
        exact ⟨by simp, ledger_asked rfl asked, by simpa using by omega, by simp [noAll, kept]⟩
    · exact ⟨[], [], .refl timeline⟩
  · exact ⟨[], [], .refl timeline⟩

theorem render_dwindles (timeline : Timeline) (now : Nat) :
    ∃ drawn queries, Dwindles timeline drawn queries (timeline.render now) :=
  timeline.timer_dwindles now timeline.editor.renderAt { timeline.editor with renderAt := none } rfl rfl
    (by simp [Editor.drawingsLeft]; omega)

theorem refresh_dwindles (timeline : Timeline) (now : Nat) :
    ∃ drawn queries, Dwindles timeline drawn queries (timeline.refresh now) :=
  timeline.timer_dwindles now timeline.editor.refreshAt { timeline.editor with refreshAt := none } rfl rfl
    (by simp [Editor.drawingsLeft]; omega)

theorem answer_dwindles (silent : timeline.running = true → timeline.handed = []) :
    Dwindles timeline [] [] (timeline.answer now) := by
  obtain ⟨_, renders, queries⟩ := timeline.answer_logs now
  have editor : (timeline.answer now).editor =
      { timeline.editor with palette := { timeline.editor.palette with sent := [] } } := by
    by_cases running : timeline.running = true
    · rw [answer_eq running, silent running]
      rfl
    · cases answering : timeline.theme <;> simp [answer, Palette.takeSent, answering, running]
  have ledger : (timeline.answer now).ledger = timeline.ledger := by
    simp [Timeline.ledger, asked, queries, editor, Function.comp_def]
  refine ⟨by rw [renders, List.append_nil], ledger ▸ .refl _, ?_, by simp [editor]⟩
  rw [List.length_nil, Nat.zero_add, editor]
  refine Editor.drawingsLeft_mono rfl rfl fun asks => ?_
  rw [Palette.asks_iff] at asks ⊢
  exact asks

theorem unheard_dwindles (timeline : Timeline) : Dwindles timeline [] [] timeline.unheard := by
  refine ⟨by simp [unheard], .refl _, ?_, by simp [unheard]⟩
  rw [List.length_nil, Nat.zero_add]
  refine Editor.drawingsLeft_mono rfl rfl fun asks => ?_
  rw [Palette.asks_iff] at asks
  cases asks.1

theorem instant_dwindles (silent : timeline.taken inputs = []) (unanswered : timeline.answered now inputs = []) :
    ∃ drawn queries, Dwindles timeline drawn queries (timeline.instant now inputs) := by
  have received := receiveAll_silent now silent
  obtain ⟨bulk, asked⟩ := (timeline.receiveAll now inputs).askAll_dwindles now
  obtain ⟨first, one, rendered⟩ := ((timeline.receiveAll now inputs).askAll now).render_dwindles now
  obtain ⟨second, two, refreshed⟩ := (((timeline.receiveAll now inputs).askAll now).render now).refresh_dwindles now
  have handed (running : (timeline.drawn now inputs).running = true) : (timeline.drawn now inputs).handed = [] := by
    rw [answered, if_pos running] at unanswered
    exact List.map_eq_nil_iff.mp unanswered
  exact ⟨_, _, (((received.trans asked).trans rendered).trans refreshed).trans (answer_dwindles handed)⟩

theorem Leads.dwindles {first stop : Nat} {before after : Timeline} {heard : List (Nat × Impulse)}
    (leads : Leads first before heard stop after) (silent : heard = []) :
    ∃ drawn queries, Dwindles before drawn queries after := by
  induction leads with
  | start => exact ⟨[], [], .refl before⟩
  | unheard _ ih =>
    obtain ⟨drawn, queries, dwindles⟩ := ih silent
    exact ⟨_, _, dwindles.trans (unheard_dwindles _)⟩
  | instant inputs _ ih =>
    simp only [List.append_eq_nil_iff, List.map_eq_nil_iff] at silent
    obtain ⟨drawn, queries, dwindles⟩ := ih silent.1
    obtain ⟨more, others, here⟩ := instant_dwindles silent.2.1 silent.2.2
    exact ⟨_, _, dwindles.trans here⟩

/-- Once nothing more arrives, drawing dies out, whether or not somebody takes the queries: at most three
drawings follow and at most one query for all colors, and no name is asked about again. -/
theorem drawing_dies_out (timeline : Timeline) (now stop : Nat) (later : Timeline)
    (quiet : Leads now timeline [] stop later) :
    ∃ drawn queries, later.renders = timeline.renders ++ drawn ∧ later.asked = timeline.asked ++ queries ∧
      drawn.length ≤ 3 ∧ queries.count .all ≤ 1 ∧
      (ColorQuery.names queries).Nodup ∧ ∀ name ∈ ColorQuery.names queries, name ∉ timeline.editor.palette.awaited := by
  obtain ⟨drawn, queries, renders, asked, left, once⟩ := quiet.dwindles rfl
  have most := timeline.editor.drawingsLeft_le
  have atMostOne : timeline.editor.askAllAt.toList.length ≤ 1 := Option.length_toList_le
  exact ⟨drawn, queries, renders, asked.sent, by omega, by omega, asked.distinct, asked.fresh⟩

/-- The config changes right after a drawing, and finds all timers set. -/
theorem drawing_dies_out_after_change :
    let events := [(0, .edited "@color fg brand".toList), (210, .configChanged)]
    let timeline := (start .empty none).before (schedule events) 211
    timeline.editor.askAllAt = some 1210 ∧ timeline.editor.renderAt = some 1710 ∧
      timeline.editor.refreshAt = some 1200 ∧ ∀ count,
        let later := (start .empty none).before (schedule events) (211 + count)
        ∃ drawn queries, later.renders = timeline.renders ++ drawn ∧ later.asked = timeline.asked ++ queries ∧
          drawn.length ≤ 3 ∧ queries.count .all ≤ 1 ∧ (ColorQuery.names queries).Nodup ∧
          ∀ name ∈ ColorQuery.names queries, name ∉ timeline.editor.palette.awaited := by
  intro events timeline
  refine ⟨by decide +kernel, by decide +kernel, by decide +kernel, fun count => ?_⟩
  have quiet : (start .empty none).heardBetween (schedule events) 211 count = [] := by
    rw [heardBetween_schedule, List.flatMap_eq_nil_iff]
    intro now member
    have after := (List.mem_range'_1.mp member).1
    simp [events]
    omega
  have leads := (start .empty none).leads_before (schedule events) 211 count
  rw [quiet] at leads
  exact drawing_dies_out timeline 211 (211 + count) _ leads

end Timeline

end ThemeSense
