import ThemeSense.Proofs.Mention
import ThemeSense.Proofs.Palette.Asking

namespace ThemeSense

/-- The names of the colors that are mentioned by name, one for each mention. -/
def Mention.themeNames (mentions : List Mention) : List String :=
  (mentions.filter (·.kind = .theme)).map fun mention => String.ofList mention.name

theorem Mention.themeNames_append (first second : List Mention) :
    themeNames (first ++ second) = themeNames first ++ themeNames second := by
  simp [themeNames]

namespace Palette

instance (palette : Palette) (name : String) : Decidable (palette.Covers name) :=
  inferInstanceAs (Decidable (_ ∨ _))

/-- The names that are neither known nor awaited, each once, in the order in which they come first. -/
def missing (palette : Palette) (names : List String) : List String :=
  (names.filter (¬ palette.Covers ·)).eraseDups

theorem mem_missing {palette : Palette} {names : List String} {name : String} :
    name ∈ palette.missing names ↔ name ∈ names ∧ ¬ palette.Covers name := by
  simp [missing]

/-- The palette once it has asked about the names. -/
def awaiting (palette : Palette) (names : List String) : Palette :=
  { palette with sent := palette.sent ++ names.map .one, awaited := palette.awaited ++ names }

theorem awaiting_nil (palette : Palette) : palette.awaiting [] = palette := by
  simp [awaiting]

theorem awaiting_append (palette : Palette) (first second : List String) :
    palette.awaiting (first ++ second) = (palette.awaiting first).awaiting second := by
  simp [awaiting]

theorem covers_awaiting {palette : Palette} {names : List String} {name : String} :
    (palette.awaiting names).Covers name ↔ palette.Covers name ∨ name ∈ names := by
  simp [awaiting, Covers, or_assoc]

/-- What is missing later is what was missing and has not been asked about in the meantime. -/
theorem missing_append (palette : Palette) (first second : List String) :
    palette.missing (first ++ second) =
      palette.missing first ++ (palette.awaiting (palette.missing first)).missing second := by
  have later : (second.filter (¬ palette.Covers ·)).removeAll (first.filter (¬ palette.Covers ·)) =
      second.filter (¬ (palette.awaiting (palette.missing first)).Covers ·) := by
    rw [List.removeAll, List.filter_filter]
    refine List.filter_congr fun name _ => ?_
    by_cases covers : palette.Covers name <;> simp [covers, covers_awaiting, mem_missing]
  rw [missing, List.filter_append, List.eraseDups_append, later]
  rfl

/-- A palette that has asked about all that was missing misses nothing. -/
theorem missing_awaiting (palette : Palette) (names : List String) :
    (palette.awaiting (palette.missing names)).missing names = [] := by
  rw [List.eq_nil_iff_forall_not_mem]
  intro name member
  obtain ⟨mentioned, uncovered⟩ := mem_missing.mp member
  rw [covers_awaiting, not_or] at uncovered
  exact uncovered.2 (mem_missing.mpr ⟨mentioned, uncovered.1⟩)

theorem ask_eq {palette : Palette} (connected : palette.connected = true) {name : String}
    (fresh : name ∉ palette.awaited) : (palette.ask name).2 = palette.awaiting [name] := by
  simp [ask, fresh, send?, connected, awaiting]

/-- One mention makes the palette ask about its name if that is missing. -/
theorem mentionColor_awaiting {palette : Palette} (connected : palette.connected = true) {mention : Mention}
    (named : mention.kind = .theme → mention.name.head? ≠ some '#') :
    (palette.mentionColor mention).2 = palette.awaiting (palette.missing (Mention.themeNames [mention])) := by
  cases kind : mention.kind with
  | hex => simp [mentionColor, kind, Mention.themeNames, missing, awaiting_nil]
  | theme =>
    have noLiteral : (String.ofList mention.name).toList.head? ≠ some '#' := by simpa using named kind
    have single : Mention.themeNames [mention] = [String.ofList mention.name] := by simp [Mention.themeNames, kind]
    rw [mentionColor, kind, single]
    simp only [color, if_neg noLiteral]
    by_cases covers : palette.Covers (String.ofList mention.name)
    · have none : palette.missing [String.ofList mention.name] = [] := by simp [missing, covers]
      rw [none, awaiting_nil]
      split
      · rfl
      · next unknown =>
        have awaited : String.ofList mention.name ∈ palette.awaited := by simpa [Covers, unknown] using covers
        simp [ask, awaited]
    · have one : palette.missing [String.ofList mention.name] = [String.ofList mention.name] := by
        simp [missing, covers, List.eraseDups_cons]
      obtain ⟨unknown, unasked⟩ := not_or.mp covers
      have none : palette.known.get? (String.ofList mention.name) = none := by simpa using unknown
      rw [one, none]
      exact ask_eq connected unasked

/-- A pass makes the palette ask about all that is missing, in the order in which it is mentioned. -/
theorem decorateMentions_awaiting (text : List Char) (mentions : List Mention) {palette : Palette}
    (connected : palette.connected = true)
    (named : ∀ mention ∈ mentions, mention.kind = .theme → mention.name.head? ≠ some '#') :
    (decorateMentions text mentions palette).2 =
      palette.awaiting (palette.missing (Mention.themeNames mentions)) := by
  induction mentions generalizing palette with
  | nil => exact palette.awaiting_nil.symm
  | cons mention mentions ih =>
    obtain ⟨here, later⟩ := List.forall_mem_cons.mp named
    have first := mentionColor_awaiting connected here
    have stillConnected : (palette.mentionColor mention).2.connected = true := by
      rw [first]
      exact connected
    have others := ih stillConnected later
    have split : Mention.themeNames (mention :: mentions) =
        Mention.themeNames [mention] ++ Mention.themeNames mentions := Mention.themeNames_append [mention] mentions
    rw [split, missing_append, awaiting_append, ← first]
    exact others

theorem decorate_awaiting {palette : Palette} (connected : palette.connected = true) (text : List Char) :
    (palette.decorate text).2 = palette.awaiting (palette.missing (Mention.themeNames (Mention.all text))) :=
  decorateMentions_awaiting text (Mention.all text) connected fun _ member isTheme =>
    (Mention.name_of_theme member isTheme).2

/-- What is drawn over a text with the colors that are known. -/
def drawing (palette : Palette) (text : List Char) : List Decoration :=
  (Mention.all text).filterMap fun mention => (palette.mentionColor mention).1.map (⟨mention.range text, ·⟩)

theorem drawing_of_known {palette other : Palette} (same : other.known = palette.known) (text : List Char) :
    other.drawing text = palette.drawing text :=
  List.filterMap_congr fun mention _ => by rw [mentionColor_fst_of_known same]

/-- A pass is known by what it makes of the palette: it counts the queries that it sends. -/
theorem decorate_eq {palette after : Palette} {text : List Char} {queries : List ColorQuery}
    (becomes : (palette.decorate text).2 = after) (sent : after.sent = palette.sent ++ queries) :
    palette.decorate text = (⟨palette.drawing text, queries.length⟩, after) := by
  obtain ⟨others, passed⟩ := palette.decorate_passed text
  have same : others = queries := by
    have total := passed.asked.sent
    rw [becomes, sent] at total
    exact (List.append_cancel_left total).symm
  rw [drawing, ← passed.drawn, ← same, ← passed.count, ← becomes]

theorem decorate_of_unchanged {palette : Palette} {text : List Char} (unchanged : (palette.decorate text).2 = palette) :
    palette.decorate text = (⟨palette.drawing text, 0⟩, palette) :=
  decorate_eq unchanged (List.append_nil _).symm

/-- One pass over a text asks about exactly the names in it that are missing, each once and in the order in
which they are first mentioned, and changes nothing else. A second one draws the same, asks about nothing
and changes nothing. Without a connection the same is drawn, and nothing is asked. -/
theorem decorate_asks_missing (palette : Palette) (text : List Char) (connected : palette.connected = true) :
    let missing := palette.missing (Mention.themeNames (Mention.all text))
    let after := { palette with sent := palette.sent ++ missing.map .one, awaited := palette.awaited ++ missing }
    let drawn := palette.drawing text
    palette.decorate text = (⟨drawn, missing.length⟩, after) ∧ after.decorate text = (⟨drawn, 0⟩, after) ∧
      palette.disconnect.decorate text = (⟨drawn, 0⟩, palette.disconnect) := by
  intro missing after drawn
  have first := decorate_eq (decorate_awaiting connected text) rfl
  have stillConnected : after.connected = true := connected
  have nothingMissing : after.missing (Mention.themeNames (Mention.all text)) = [] := palette.missing_awaiting _
  have second : after.decorate text = (⟨after.drawing text, 0⟩, after) := by
    refine decorate_of_unchanged ?_
    rw [decorate_awaiting stillConnected, nothingMissing, awaiting_nil]
  have unheard : palette.disconnect.connected = false := rfl
  have third := decorate_of_unchanged (decorate_disconnected unheard text).1
  rw [List.length_map] at first
  have knownAfter : after.known = palette.known := rfl
  have knownUnheard : palette.disconnect.known = palette.known := rfl
  rw [drawing_of_known knownAfter] at second
  rw [drawing_of_known knownUnheard] at third
  exact ⟨first, second, third⟩

/-- One name is known, one is awaited, and one that is missing is mentioned twice. -/
theorem decorate_asks_missing_beside_known :
    let palette : Palette := ⟨[("main", "#123")], ["brand"], [.all], true⟩
    let text :=
      "@color fg pink; @color bg main; @color fill brand; @color stroke pink; @color border-top a.b; #fff".toList
    let after : Palette := ⟨[("main", "#123")], ["brand", "pink", "a.b"], [.all, .one "pink", .one "a.b"], true⟩
    let drawn := palette.drawing text
    palette.connected = true ∧ palette.decorate text = (⟨drawn, 2⟩, after) ∧ after.decorate text = (⟨drawn, 0⟩, after) ∧
      palette.disconnect.decorate text = (⟨drawn, 0⟩, palette.disconnect) := by
  intro palette text after drawn
  have missing : palette.missing (Mention.themeNames (Mention.all text)) = ["pink", "a.b"] := by decide +kernel
  have asks := palette.decorate_asks_missing text rfl
  rw [missing] at asks
  exact ⟨rfl, asks⟩

end Palette

end ThemeSense
