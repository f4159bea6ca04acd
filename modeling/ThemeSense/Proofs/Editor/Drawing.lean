import Mathlib.Data.List.Basic
import ThemeSense.Editor.Basic
import ThemeSense.Proofs.Mention
import ThemeSense.Proofs.Palette.Faithful

namespace ThemeSense

def Mention.settled (value? : String → Option String) (mention : Mention) : Option String :=
  match mention.kind with
  | .hex => some (String.ofList mention.name)
  | .theme => settledColor value? (String.ofList mention.name)

/-- What is drawn over a text when all is known. -/
def settledDecorations (value? : String → Option String) (text : List Char) : List Decoration :=
  (Mention.all text).filterMap fun mention => (mention.settled value?).map (⟨mention.range text, ·⟩)

namespace Palette

/-- Nothing in the text is left to ask about. -/
def CoversText (palette : Palette) (text : List Char) : Prop :=
  ∀ mention ∈ Mention.all text, mention.kind = .theme → palette.Covers (String.ofList mention.name)

theorem Covers.learn {palette : Palette} {name : String} (covers : palette.Covers name) (color : NamedValue) :
    (palette.learn color).Covers name := by
  unfold Palette.learn
  split
  · exact covers
  · by_cases same : color.name = name
    · exact .inl (by simp [Table.get?_insert, same])
    · rcases covers with known | awaited
      · exact .inl (by simpa [Table.get?_insert, same] using known)
      · exact .inr (by simpa [awaited] using Ne.symm same)

theorem learnAll_sent (palette : Palette) (colors : List NamedValue) :
    (palette.learnAll colors).sent = palette.sent ∧ (palette.learnAll colors).connected = palette.connected := by
  induction colors generalizing palette with
  | nil => exact ⟨rfl, rfl⟩
  | cons color colors ih =>
    obtain ⟨sent, connected⟩ := palette.learn_sent color
    exact ⟨(ih _).1.trans sent, (ih _).2.trans connected⟩

namespace CoversText

variable {palette after : Palette} {text : List Char}

theorem asked (covers : palette.CoversText text) {queries : List ColorQuery} (asked : palette.Asked queries after) :
    after.CoversText text :=
  fun mention member isTheme => (covers mention member isTheme).asked asked

theorem learnAll (covers : palette.CoversText text) (colors : List NamedValue) :
    (palette.learnAll colors).CoversText text := by
  induction colors generalizing palette with
  | nil => exact covers
  | cons color colors ih => exact ih fun mention member isTheme => (covers mention member isTheme).learn color

theorem takeSent (covers : palette.CoversText text) : { palette with sent := [] }.CoversText text :=
  covers

end CoversText

/-- With nothing left to ask about and no query for a name on its way, a text is drawn as it is settled. -/
theorem drawn_settled {value? : String → Option String} {palette : Palette} {text : List Char}
    (faithful : Faithful value? palette []) (unasked : ∀ name, .one name ∉ palette.sent)
    (covers : palette.CoversText text) :
    ((Mention.all text).filterMap fun mention =>
      (palette.mentionColor mention).1.map (Decoration.mk (mention.range text))) =
      settledDecorations value? text := by
  refine List.filterMap_congr fun mention member => ?_
  have same : (palette.mentionColor mention).1 = mention.settled value? := by
    unfold mentionColor Mention.settled
    cases kind : mention.kind with
    | hex => rfl
    | theme =>
      obtain ⟨nonempty, notLiteral⟩ := Mention.name_of_theme member kind
      have named : String.ofList mention.name ≠ "" := by
        simpa [String.ext_iff] using nonempty
      exact faithful.color_settled named (by simpa using notLiteral) (unasked _) (covers mention member kind)
  rw [same]

end Palette

namespace Editor

variable {value? : String → Option String} {editor : Editor}

/-- Drawing either shows the settled text and changes nothing, or finds something to ask about and plans
to draw again. -/
theorem render_cases (now : Nat) (connected : editor.palette.connected = true)
    (faithful : Faithful value? editor.palette []) (unasked : ∀ name, .one name ∉ editor.palette.sent) :
    editor.palette.CoversText editor.text ∧ editor.render now = (settledDecorations value? editor.text, editor) ∨
      ¬ editor.palette.CoversText editor.text ∧ ∃ drawn queries after, editor.palette.Asked queries after ∧
        after.CoversText editor.text ∧
        editor.render now = (drawn, { editor with palette := after, refreshAt := some (now + refreshDelay) }) := by
  obtain ⟨queries, passed⟩ := editor.palette.decorate_passed editor.text
  by_cases covers : editor.palette.CoversText editor.text
  · left
    have none := passed.unneeded covers
    subst none
    have shown := passed.drawn.trans (Palette.drawn_settled faithful unasked covers)
    have noCount : ¬ 0 < (editor.palette.decorate editor.text).1.asked := by simp [passed.count]
    refine ⟨covers, ?_⟩
    simp only [render, shown, if_neg noCount, passed.asked.eq_of_nil]
  · right
    have covered : (editor.palette.decorate editor.text).2.CoversText editor.text := fun mention member isTheme =>
      passed.covers connected mention member isTheme (Mention.name_of_theme member isTheme).2
    have some : queries ≠ [] := by
      rintro rfl
      rw [passed.asked.eq_of_nil] at covered
      exact covers covered
    have count : 0 < (editor.palette.decorate editor.text).1.asked := by
      rw [passed.count]
      exact List.length_pos_iff.mpr some
    refine ⟨covers, (editor.palette.decorate editor.text).1.decorations, queries, _, passed.asked, covered, ?_⟩
    simp only [render, if_pos count]

end Editor

end ThemeSense
