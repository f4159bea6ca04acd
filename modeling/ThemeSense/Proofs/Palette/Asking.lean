import ThemeSense.Palette

namespace ThemeSense

def ColorQuery.name? : ColorQuery → Option String
  | .all => none
  | .one name => some name

def ColorQuery.names (queries : List ColorQuery) : List String :=
  queries.filterMap name?

@[simp] theorem ColorQuery.names_nil : names [] = [] := rfl

@[simp] theorem ColorQuery.names_all : names [.all] = [] := rfl

@[simp] theorem ColorQuery.names_one (name : String) : names [.one name] = [name] := rfl

@[simp] theorem ColorQuery.names_append (first second : List ColorQuery) :
    names (first ++ second) = names first ++ names second :=
  List.filterMap_append

theorem ColorQuery.mem_names {queries : List ColorQuery} {name : String} :
    name ∈ names queries ↔ .one name ∈ queries := by
  simp only [names, List.mem_filterMap]
  constructor
  · rintro ⟨query, member, found⟩
    cases query with
    | all => cases found
    | one other => cases found; exact member
  · intro member
    exact ⟨_, member, rfl⟩

theorem ColorQuery.count_all_map_one (names : List String) : (names.map ColorQuery.one).count .all = 0 := by
  simp [List.count_eq_zero]

/-- What an editor can do with a palette that makes it ask. -/
inductive Inquiry where
  | color (name : String)
  | ask (name : String)
  | askAll
  | decorate (text : List Char)

namespace Palette

def inquire (palette : Palette) : Inquiry → Palette
  | .color name => (palette.color name).2
  | .ask name => (palette.ask name).2
  | .askAll => palette.askAll
  | .decorate text => (palette.decorate text).2

/-- Between two states of a palette the queries were sent and nothing else happened. The names in
them are new, and are awaited from then on. -/
structure Asked (before : Palette) (queries : List ColorQuery) (after : Palette) : Prop where
  known : after.known = before.known
  connected : after.connected = before.connected
  sent : after.sent = before.sent ++ queries
  awaited : after.awaited = before.awaited ++ ColorQuery.names queries
  fresh : ∀ name ∈ ColorQuery.names queries, name ∉ before.awaited
  distinct : (ColorQuery.names queries).Nodup

namespace Asked

theorem refl (palette : Palette) : Asked palette [] palette :=
  ⟨rfl, rfl, by simp, by simp, by simp, by simp⟩

theorem trans {a b c : Palette} {first second : List ColorQuery} (one : Asked a first b) (two : Asked b second c) :
    Asked a (first ++ second) c where
  known := two.known.trans one.known
  connected := two.connected.trans one.connected
  sent := by rw [two.sent, one.sent, List.append_assoc]
  awaited := by rw [two.awaited, one.awaited, ColorQuery.names_append, List.append_assoc]
  fresh := by
    intro name member
    rw [ColorQuery.names_append, List.mem_append] at member
    rcases member with member | member
    · exact one.fresh name member
    · have unasked := two.fresh name member
      rw [one.awaited, List.mem_append, not_or] at unasked
      exact unasked.1
  distinct := by
    rw [ColorQuery.names_append, List.nodup_append]
    refine ⟨one.distinct, two.distinct, ?_⟩
    rintro name early _ late rfl
    have unasked := two.fresh name late
    rw [one.awaited, List.mem_append, not_or] at unasked
    exact unasked.2 early

theorem eq_of_nil {before after : Palette} (asked : Asked before [] after) : after = before := by
  obtain ⟨known, connected, sent, awaited, _, _⟩ := asked
  cases before
  cases after
  simp_all

theorem mem_awaited {before after : Palette} {queries : List ColorQuery} (asked : Asked before queries after)
    {name : String} (member : name ∈ before.awaited) : name ∈ after.awaited := by
  rw [asked.awaited]
  exact List.mem_append_left _ member

end Asked

theorem ask_asked (palette : Palette) (name : String) :
    ∃ queries, Asked palette queries (palette.ask name).2 ∧ (queries = [] ∨ queries = [.one name]) ∧
      (palette.connected = true → name ∈ (palette.ask name).2.awaited) := by
  by_cases awaited : name ∈ palette.awaited
  · exact ⟨[], by simpa [ask, awaited] using Asked.refl palette, .inl rfl, by simp [ask, awaited]⟩
  · cases connected : palette.connected with
    | false => exact ⟨[], by simpa [ask, awaited, send?, connected] using Asked.refl palette, .inl rfl, by simp⟩
    | true =>
      refine ⟨[.one name], ?_, .inr rfl, by simp [ask, awaited, send?, connected]⟩
      simp only [ask, awaited, send?, connected]
      exact ⟨rfl, connected.symm, rfl, rfl, by simpa using awaited, by simp⟩

theorem askAll_asked (palette : Palette) :
    ∃ queries, Asked palette queries palette.askAll ∧ (queries = [] ∨ queries = [.all]) := by
  cases connected : palette.connected with
  | false => exact ⟨[], by simpa [askAll, send?, connected] using Asked.refl palette, .inl rfl⟩
  | true =>
    refine ⟨[.all], ?_, .inr rfl⟩
    simp only [askAll, send?, connected]
    exact ⟨rfl, connected.symm, rfl, by simp, by simp, by simp⟩

/-- The palette has a value for the name, or has asked about it. -/
def Covers (palette : Palette) (name : String) : Prop :=
  (palette.known.get? name).isSome = true ∨ name ∈ palette.awaited

theorem Covers.asked {before after : Palette} {queries : List ColorQuery} {name : String}
    (covers : before.Covers name) (asked : Asked before queries after) : after.Covers name := by
  rcases covers with known | awaited
  · left
    rw [asked.known]
    exact known
  · exact .inr (asked.mem_awaited awaited)

theorem color_asked (palette : Palette) (name : String) :
    ∃ queries, Asked palette queries (palette.color name).2 ∧ (queries = [] ∨ queries = [.one name]) ∧
      (palette.Covers name → queries = []) ∧
      (palette.connected = true → name.toList.head? ≠ some '#' → (palette.color name).2.Covers name) := by
  by_cases literal : name.toList.head? = some '#'
  · exact ⟨[], by simpa [color, literal] using Asked.refl palette, .inl rfl, fun _ => rfl,
      fun _ other => absurd literal other⟩
  · cases known : palette.known.get? name with
    | some value =>
      refine ⟨[], by simpa [color, literal, known] using Asked.refl palette, .inl rfl, fun _ => rfl, ?_⟩
      refine fun _ _ => .inl ?_
      simp [color, literal, known]
    | none =>
      obtain ⟨queries, asked, single, covers⟩ := palette.ask_asked name
      simp only [color, if_neg literal, known]
      refine ⟨queries, asked, single, ?_, fun connected _ => .inr (covers connected)⟩
      intro covered
      have awaited : name ∈ palette.awaited := by simpa [Covers, known] using covered
      rcases single with none | one
      · exact none
      · exact absurd awaited (asked.fresh name (by simp [one]))

theorem color_fst (palette : Palette) (name : String) :
    (palette.color name).1 = if name.toList.head? = some '#' then some name
      else palette.known.get? name <|> builtinColor? name <|> namedColor? name := by
  unfold color
  split
  · rfl
  · cases palette.known.get? name <;> rfl

theorem mentionColor_fst_of_known {palette other : Palette} (same : other.known = palette.known) (mention : Mention) :
    (other.mentionColor mention).1 = (palette.mentionColor mention).1 := by
  unfold mentionColor
  split
  · rfl
  · rw [color_fst, color_fst, same]

theorem mentionColor_asked (palette : Palette) (mention : Mention) :
    ∃ queries, Asked palette queries (palette.mentionColor mention).2 ∧
      queries.length = (if palette.awaited.length < (palette.mentionColor mention).2.awaited.length then 1 else 0) ∧
      ((mention.kind = .theme → palette.Covers (String.ofList mention.name)) → queries = []) ∧
      (palette.connected = true → mention.kind = .theme → mention.name.head? ≠ some '#' →
        (palette.mentionColor mention).2.Covers (String.ofList mention.name)) := by
  cases kind : mention.kind with
  | hex =>
    simp only [mentionColor, kind]
    exact ⟨[], .refl palette, by simp, fun _ => rfl, fun _ other => by cases other⟩
  | theme =>
    simp only [mentionColor, kind]
    obtain ⟨queries, asked, single, unneeded, covers⟩ := palette.color_asked (String.ofList mention.name)
    refine ⟨queries, asked, ?_, fun covered => unneeded (covered trivial),
      fun connected _ other => covers connected (by simpa using other)⟩
    rw [asked.awaited]
    rcases single with rfl | rfl <;> simp

theorem mentionColor_asks (palette : Palette) (mention : Mention) :
    ∃ names : List String, (palette.mentionColor mention).2.sent = palette.sent ++ names.map .one := by
  unfold mentionColor
  split
  · exact ⟨[], by simp⟩
  · obtain ⟨queries, asked, single, _⟩ := palette.color_asked (String.ofList mention.name)
    rcases single with rfl | rfl
    · exact ⟨[], asked.sent⟩
    · exact ⟨[_], asked.sent⟩

/-- A pass asks about single names only. -/
theorem decorateMentions_asks (text : List Char) (mentions : List Mention) (palette : Palette) :
    ∃ names : List String,
      (decorateMentions text mentions palette).2.sent = palette.sent ++ names.map .one := by
  induction mentions generalizing palette with
  | nil => exact ⟨[], by simp [decorateMentions]⟩
  | cons mention mentions ih =>
    obtain ⟨first, here⟩ := palette.mentionColor_asks mention
    obtain ⟨others, rest⟩ := ih (palette.mentionColor mention).2
    refine ⟨first ++ others, ?_⟩
    rw [List.map_append, ← List.append_assoc, ← here]
    exact rest

theorem mentionColor_disconnected {palette : Palette} (unheard : palette.connected = false) (mention : Mention) :
    (palette.mentionColor mention).2 = palette := by
  have unsent (name : String) : (palette.ask name).2 = palette := by
    unfold ask
    split
    · rfl
    · simp [send?, unheard]
  unfold mentionColor
  split
  · rfl
  · unfold color
    split
    · rfl
    · split
      · rfl
      · exact unsent _

/-- Without a connection a pass changes nothing. -/
theorem decorate_disconnected {palette : Palette} (unheard : palette.connected = false) (text : List Char) :
    (palette.decorate text).2 = palette ∧ (palette.decorate text).1.asked = 0 := by
  unfold decorate
  induction Mention.all text with
  | nil => exact ⟨rfl, rfl⟩
  | cons mention mentions ih => simp [decorateMentions, mentionColor_disconnected unheard, ih]

/-- One pass over mentions: what it draws depends on what is known at its start, it counts the
queries that it sends, it sends none when every name is covered, and afterwards every name is. -/
structure Passed (text : List Char) (mentions : List Mention) (before : Palette) (pass : Pass) (after : Palette)
    (queries : List ColorQuery) : Prop where
  asked : Asked before queries after
  count : pass.asked = queries.length
  drawn : pass.decorations = mentions.filterMap fun mention =>
    (before.mentionColor mention).1.map (⟨mention.range text, ·⟩)
  unneeded : (∀ mention ∈ mentions, mention.kind = .theme → before.Covers (String.ofList mention.name)) →
    queries = []
  covers : before.connected = true → ∀ mention ∈ mentions, mention.kind = .theme →
    mention.name.head? ≠ some '#' → after.Covers (String.ofList mention.name)

theorem decorateMentions_passed (text : List Char) (mentions : List Mention) (palette : Palette) :
    ∃ queries, Passed text mentions palette (decorateMentions text mentions palette).1
      (decorateMentions text mentions palette).2 queries := by
  induction mentions generalizing palette with
  | nil => exact ⟨[], .refl palette, rfl, rfl, fun _ => rfl, by simp⟩
  | cons mention mentions ih =>
    obtain ⟨first, one, count, unneeded, covers⟩ := palette.mentionColor_asked mention
    obtain ⟨others, rest⟩ := ih (palette.mentionColor mention).2
    refine ⟨first ++ others, one.trans rest.asked, ?_, ?_, ?_, ?_⟩
    · simp only [decorateMentions, rest.count, List.length_append, count]
    · simp only [decorateMentions, rest.drawn, mentionColor_fst_of_known one.known, List.filterMap_cons]
      cases (palette.mentionColor mention).1 <;> rfl
    · intro covered
      obtain ⟨here, later⟩ := List.forall_mem_cons.mp covered
      have noFirst := unneeded here
      rw [noFirst] at one
      rw [noFirst, List.nil_append]
      exact rest.unneeded (by rwa [one.eq_of_nil])
    · intro connected other member isTheme isName
      rcases List.mem_cons.mp member with rfl | member
      · exact (covers connected isTheme isName).asked rest.asked
      · exact rest.covers (one.connected.trans connected) other member isTheme isName

theorem decorate_passed (palette : Palette) (text : List Char) :
    ∃ queries, Passed text (Mention.all text) palette (palette.decorate text).1 (palette.decorate text).2 queries :=
  decorateMentions_passed text (Mention.all text) palette

theorem decorate_asks (palette : Palette) (text : List Char) :
    ∃ names : List String, (palette.decorate text).2.sent = palette.sent ++ names.map .one ∧
      (palette.decorate text).1.asked = names.length := by
  obtain ⟨names, sent⟩ := decorateMentions_asks text (Mention.all text) palette
  obtain ⟨queries, passed⟩ := palette.decorate_passed text
  have same : queries = names.map .one := List.append_cancel_left (passed.asked.sent.symm.trans sent)
  exact ⟨names, sent, by rw [passed.count, same, List.length_map]⟩

theorem decorate_asked (palette : Palette) (text : List Char) :
    ∃ names : List String, Asked palette (names.map .one) (palette.decorate text).2 := by
  obtain ⟨names, sent, _⟩ := palette.decorate_asks text
  obtain ⟨queries, passed⟩ := palette.decorate_passed text
  have same : queries = names.map .one := List.append_cancel_left (passed.asked.sent.symm.trans sent)
  exact ⟨names, same ▸ passed.asked⟩

/-- Whatever an editor does with a palette, the palette does no more than ask. -/
theorem inquire_asked (palette : Palette) (inquiry : Inquiry) :
    ∃ queries, Asked palette queries (palette.inquire inquiry) := by
  cases inquiry with
  | color name =>
    obtain ⟨queries, asked, _⟩ := palette.color_asked name
    exact ⟨queries, asked⟩
  | ask name =>
    obtain ⟨queries, asked, _⟩ := palette.ask_asked name
    exact ⟨queries, asked⟩
  | askAll =>
    obtain ⟨queries, asked, _⟩ := palette.askAll_asked
    exact ⟨queries, asked⟩
  | decorate text =>
    obtain ⟨queries, passed⟩ := palette.decorate_passed text
    exact ⟨queries, passed.asked⟩

end Palette

end ThemeSense
