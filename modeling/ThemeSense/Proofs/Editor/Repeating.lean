import ThemeSense.Proofs.Editor.Instants

namespace ThemeSense

namespace Editor

/-- How a planned repetition goes back to what was asked up to now: it comes `refreshDelay` after a
query about a color, and no query from `due` on waits for it longer. -/
structure Repeats (asked : List (Nat × ColorQuery)) (now due : Nat) (refreshAt : Option Nat) : Prop where
  past : ∀ row ∈ asked, row.1 ≤ now
  origin : ∀ time, refreshAt = some time → due ≤ time ∧
    ∃ start name, (start, .one name) ∈ asked ∧ time = start + refreshDelay
  planned : ∀ start name, (start, .one name) ∈ asked → due ≤ start + refreshDelay →
    ∃ time, refreshAt = some time ∧ start + refreshDelay ≤ time

namespace Repeats

variable {asked : List (Nat × ColorQuery)} {now due : Nat} {refreshAt : Option Nat}

theorem start : Repeats [] now due none :=
  ⟨by simp, by simp, by simp⟩

theorem later (repeats : Repeats asked now due refreshAt) : Repeats asked (now + 1) due refreshAt :=
  ⟨fun row member => Nat.le_succ_of_le (repeats.past row member), repeats.origin, repeats.planned⟩

theorem askAll (repeats : Repeats asked now due refreshAt) {queries : List ColorQuery}
    (shape : queries = [] ∨ queries = [.all]) :
    Repeats (asked ++ queries.map (now, ·)) now due refreshAt := by
  rcases shape with rfl | rfl
  · simpa using repeats
  · refine ⟨?_, ?_, ?_⟩
    · simpa [or_imp, forall_and] using fun time query member => repeats.past (time, query) member
    · simpa using repeats.origin
    · simpa using repeats.planned

theorem draw (repeats : Repeats asked now due refreshAt) (soon : due ≤ now + refreshDelay) (names : List String) :
    Repeats (asked ++ (names.map .one).map (now, ·)) now due
      (if names = [] then refreshAt else some (now + refreshDelay)) := by
  by_cases none : names = []
  · simpa [none] using repeats
  · rw [if_neg none]
    have past : ∀ row ∈ asked ++ (names.map ColorQuery.one).map (now, ·), row.1 ≤ now := by
      intro row member
      rcases List.mem_append.mp member with old | new
      · exact repeats.past row old
      · obtain ⟨_, _, rfl⟩ := List.mem_map.mp new
        exact Nat.le_refl now
    refine ⟨past, ?_, ?_⟩
    · rintro _ ⟨⟩
      obtain ⟨name, member⟩ := List.exists_mem_of_ne_nil names none
      exact ⟨soon, now, name, List.mem_append_right _ (by simpa using member), rfl⟩
    · intro start name member _
      exact ⟨_, rfl, Nat.add_le_add_right (past _ member) refreshDelay⟩

theorem clear (repeats : Repeats asked now now refreshAt) (isDue : isDue refreshAt now = true) :
    Repeats asked now (now + 1) none := by
  obtain ⟨time, set, past⟩ := isDue_iff.mp isDue
  refine ⟨repeats.past, by simp, fun start name member late => ?_⟩
  obtain ⟨other, same, after⟩ := repeats.planned start name member (by omega)
  cases set.symm.trans same
  omega

theorem next (repeats : Repeats asked now now refreshAt) (early : ¬ isDue refreshAt now = true) :
    Repeats asked now (now + 1) refreshAt := by
  refine ⟨repeats.past, fun time set => ?_, fun start name member late => ?_⟩
  · have future : ¬ time ≤ now := fun past => early (isDue_iff.mpr ⟨time, set, past⟩)
    exact ⟨by omega, (repeats.origin time set).2⟩
  · exact repeats.planned start name member (by omega)

end Repeats

/-- Between two states of an editor queries were sent, and what is planned still goes back to them. -/
def Asks (now due next : Nat) (before after : Editor) : Prop :=
  ∃ queries, after.palette.sent = before.palette.sent ++ queries ∧
    ∀ asked, Repeats asked now due before.refreshAt →
      Repeats (asked ++ queries.map (now, ·)) now next after.refreshAt

theorem Asks.trans {now a b c : Nat} {first second third : Editor} (one : Asks now a b first second)
    (two : Asks now b c second third) : Asks now a c first third := by
  obtain ⟨queries, sent, repeats⟩ := one
  obtain ⟨others, more, again⟩ := two
  refine ⟨queries ++ others, by rw [more, sent, List.append_assoc], fun asked initial => ?_⟩
  rw [List.map_append, ← List.append_assoc]
  exact again _ (repeats asked initial)

variable (editor : Editor) (now : Nat)

theorem askAllIfDue_asks : Asks now now now editor (editor.askAllIfDue now) := by
  unfold askAllIfDue
  split
  · obtain ⟨queries, asked, shape⟩ := editor.palette.askAll_asked
    exact ⟨queries, asked.sent, fun _ repeats => repeats.askAll shape⟩
  · exact ⟨[], by simp, fun _ repeats => by simpa using repeats⟩

theorem render_asks {due : Nat} (soon : due ≤ now + refreshDelay) : Asks now due due editor (editor.render now).2 := by
  obtain ⟨names, sent, count⟩ := editor.palette.decorate_asks editor.text
  refine ⟨names.map .one, sent, fun asked repeats => ?_⟩
  have planned : (editor.render now).2.refreshAt =
      if names = [] then editor.refreshAt else some (now + refreshDelay) := by
    simp only [render, count, List.length_pos_iff, ite_not]
  rw [planned]
  exact repeats.draw soon names

theorem renderIfDue_asks : Asks now now now editor (editor.renderIfDue now).2 := by
  unfold renderIfDue
  split
  · exact render_asks { editor with renderAt := none } now (Nat.le_add_right now refreshDelay)
  · exact ⟨[], by simp, fun _ repeats => by simpa using repeats⟩

theorem refreshIfDue_asks : Asks now now (now + 1) editor (editor.refreshIfDue now).2 := by
  unfold refreshIfDue
  split
  · rename_i isDue
    obtain ⟨queries, sent, repeats⟩ :=
      render_asks { editor with refreshAt := none } now (Nat.add_le_add_left (by decide : 1 ≤ refreshDelay) now)
    exact ⟨queries, sent, fun asked initial => repeats asked (initial.clear isDue)⟩
  · rename_i early
    exact ⟨[], by simp, fun _ repeats => by simpa using repeats.next early⟩

theorem fire_asks : Asks now now (now + 1) editor (editor.fire now).2 :=
  ((askAllIfDue_asks editor now).trans (renderIfDue_asks _ now)).trans (refreshIfDue_asks _ now)

theorem askAllIfDue_deadlines : (editor.askAllIfDue now).renderAt = editor.renderAt ∧
    (editor.askAllIfDue now).refreshAt = editor.refreshAt := by
  unfold askAllIfDue
  split <;> exact ⟨rfl, rfl⟩

theorem render_not_due (unplanned : editor.refreshAt = none) : ¬ isDue (editor.render now).2.refreshAt now = true := by
  rw [isDue_iff]
  rintro ⟨time, planned, past⟩
  simp only [render, unplanned] at planned
  split at planned
  · cases planned
    have later : 0 < refreshDelay := by decide
    omega
  · cases planned

variable {editor now}

/-- Before the document is to be drawn, it is drawn again at most. -/
theorem fire_early {deadline : Nat} (set : editor.renderAt = some deadline) (early : now < deadline) :
    (editor.fire now).2.renderAt = some deadline ∧
      (isDue editor.refreshAt now = true → ∃ drawn, (editor.fire now).1 = [drawn]) ∧
      (¬ isDue editor.refreshAt now = true →
        (editor.fire now).1 = [] ∧ (editor.fire now).2.refreshAt = editor.refreshAt) := by
  obtain ⟨render, refresh⟩ := editor.askAllIfDue_deadlines now
  have notDue : ¬ isDue (editor.askAllIfDue now).renderAt now = true := by
    rw [render, set, isDue_iff]
    rintro ⟨time, ⟨⟩, past⟩
    omega
  have idle : (editor.askAllIfDue now).renderIfDue now = (none, editor.askAllIfDue now) := if_neg notDue
  simp only [fire, idle, Option.toList_none, List.nil_append, refreshIfDue, refresh]
  split
  · rename_i due
    exact ⟨render.trans set, fun _ => ⟨_, rfl⟩, fun early => absurd due early⟩
  · rename_i early
    exact ⟨render.trans set, fun due => absurd due early, fun _ => ⟨rfl, refresh⟩⟩

/-- When the document is to be drawn, it is, and once only if no repetition was planned. -/
theorem fire_due (set : editor.renderAt = some now) :
    (editor.fire now).1 ≠ [] ∧ (editor.refreshAt = none → ∃ drawn, (editor.fire now).1 = [drawn]) := by
  obtain ⟨render, refresh⟩ := editor.askAllIfDue_deadlines now
  have due : isDue (editor.askAllIfDue now).renderAt now = true :=
    isDue_iff.mpr ⟨now, render.trans set, Nat.le_refl now⟩
  simp only [fire, renderIfDue, if_pos due, Option.toList_some]
  refine ⟨by simp, fun unplanned => ?_⟩
  have alone := render_not_due { editor.askAllIfDue now with renderAt := none } now (refresh.trans unplanned)
  rw [refreshIfDue, if_neg alone, Option.toList_none, List.append_nil]
  exact ⟨_, rfl⟩

end Editor

namespace Timeline

/-- An instant adds its queries to those that repetitions go back to. -/
theorem Passes.repeats {now : Nat} {inputs : List Input} {before after : Timeline}
    (passes : Passes now inputs before after) {initial asked : List (Nat × ColorQuery)}
    (log : before.queries ++ before.editor.palette.sent.map (now, ·) = initial ++ asked)
    (repeats : Editor.Repeats asked now now before.editor.refreshAt) :
    ∃ more, after.queries = initial ++ more ∧ after.editor.palette.sent = [] ∧
      Editor.Repeats more now (now + 1) after.editor.refreshAt := by
  have taken := before.receiveAll_takes now inputs
  obtain ⟨queries, sent, next⟩ := Editor.fire_asks (before.receiveAll now inputs).editor now
  refine ⟨asked ++ queries.map (now, ·), ?_, ?_, ?_⟩
  · rw [passes.queries, sent, taken.sent, List.map_append, ← List.append_assoc, log, List.append_assoc]
  · rw [passes.editor, Editor.foldl_learn]
    exact (Palette.learnAll_sent _ _).1
  · rw [passes.editor, Editor.foldl_learn]
    exact next asked (by rwa [taken.refreshAt])

/-- After each instant, what is planned goes back to what the editor has asked by itself. -/
theorem repeats_after {schedule : List Scheduled} (unclosed : ∀ item ∈ schedule, item.input ≠ .closeRenders)
    (palette : Palette) (theme : Option Theme) (now : Nat) :
    ∃ asked, ((start palette theme).before schedule (now + 1)).queries = palette.sent.map (0, ·) ++ asked ∧
      ((start palette theme).before schedule (now + 1)).editor.palette.sent = [] ∧
      Editor.Repeats asked now (now + 1) ((start palette theme).before schedule (now + 1)).editor.refreshAt := by
  have watched : (start palette theme).Watched := ⟨rfl, rfl⟩
  induction now with
  | zero => exact (watched.passes unclosed 0).repeats (List.append_nil _).symm .start
  | succ now ih =>
    obtain ⟨asked, log, sent, repeats⟩ := ih
    refine (watched.passes unclosed (now + 1)).repeats ?_ repeats.later
    rw [sent, log]
    exact List.append_nil _

end Timeline

end ThemeSense
