import Mathlib.Data.List.Basic
import ThemeSense.Proofs.Palette.Asking
import ThemeSense.Proofs.Table

namespace ThemeSense

inductive Operation where
  | inquire (inquiry : Inquiry)
  | learn (color : NamedValue)
  | forget
  | disconnect

/-- What a history says about the colors: a query for a name went out, a color came in that has
both a name and a value, or the theme changed. -/
inductive Mark where
  | asked (name : String)
  | learnt (name value : String)
  | forgot
deriving DecidableEq

/-- Whether a mark ends what was known and asked about a name before it. -/
def Mark.Settles (name : String) : Mark → Prop
  | asked _ => False
  | learnt other _ => other = name
  | forgot => True

/-- A mark in the history that no later one has ended for the name. -/
def Stands (name : String) (mark : Mark) (history : List Mark) : Prop :=
  ∃ earlier later, history = earlier ++ mark :: later ∧ ∀ other ∈ later, ¬ other.Settles name

/-- Between two queries for the name something has settled it. -/
def Separated (name : String) (history : List Mark) : Prop :=
  ∀ earlier between later, history = earlier ++ .asked name :: (between ++ .asked name :: later) →
    ∃ mark ∈ between, mark.Settles name

theorem split_concat {history earlier later : List Mark} {mark last : Mark}
    (split : history ++ [last] = earlier ++ mark :: later) :
    history = earlier ∧ last = mark ∧ later = [] ∨
      ∃ front, later = front ++ [last] ∧ history = earlier ++ mark :: front := by
  rcases List.eq_nil_or_concat' later with rfl | ⟨front, final, rfl⟩
  · obtain ⟨same, equal⟩ := List.append_singleton_inj.mp split
    exact .inl ⟨same, equal, rfl⟩
  · rw [← List.cons_append, ← List.append_assoc, List.append_singleton_inj] at split
    obtain ⟨same, rfl⟩ := split
    exact .inr ⟨front, rfl, same⟩

theorem stands_concat {name : String} {mark last : Mark} {history : List Mark} :
    Stands name mark (history ++ [last]) ↔ last = mark ∨ Stands name mark history ∧ ¬ last.Settles name := by
  constructor
  · rintro ⟨earlier, later, split, unsettled⟩
    rcases split_concat split with ⟨_, equal, _⟩ | ⟨front, rfl, same⟩
    · exact .inl equal
    · exact .inr ⟨⟨earlier, front, same, fun other member => unsettled other (List.mem_append_left _ member)⟩,
        unsettled last (by simp)⟩
  · rintro (rfl | ⟨⟨earlier, later, rfl, unsettled⟩, kept⟩)
    · exact ⟨history, [], rfl, by simp⟩
    · refine ⟨earlier, later ++ [last], by simp, ?_⟩
      intro other member
      rcases List.mem_append.mp member with old | new
      · exact unsettled other old
      · rw [List.mem_singleton.mp new]
        exact kept

/-- A query for a name that nothing stands for keeps the queries apart. -/
theorem Separated.concat {name : String} {history : List Mark} (separated : Separated name history) {last : Mark}
    (fresh : last = .asked name → ¬ Stands name (.asked name) history) : Separated name (history ++ [last]) := by
  intro earlier between later split
  rw [← List.cons_append, ← List.append_assoc] at split
  rcases split_concat split with ⟨same, equal, _⟩ | ⟨front, rfl, same⟩
  · by_contra unsettled
    exact fresh equal ⟨earlier, between, same, by simpa using unsettled⟩
  · exact separated earlier between front (by simpa using same)

/-- What is awaited and what is known, read off a history. -/
structure Recalls (awaited : List String) (known : Table String) (history : List Mark) : Prop where
  awaited : ∀ name, name ∈ awaited ↔ Stands name (.asked name) history
  known : ∀ name value, known.get? name = some value ↔ Stands name (.learnt name value) history
  separated : ∀ name, Separated name history

namespace Recalls

variable {awaited : List String} {known : Table String} {history : List Mark}

theorem nil : Recalls [] [] [] where
  awaited name := by simp [Stands]
  known name value := by simp [Stands, Table.get?]
  separated name := by
    intro earlier between later split
    simp at split

theorem ask (recalls : Recalls awaited known history) {name : String} (fresh : name ∉ awaited) :
    Recalls (awaited ++ [name]) known (history ++ [.asked name]) where
  awaited other := by
    rw [stands_concat, ← recalls.awaited, List.mem_append, List.mem_singleton]
    simp only [Mark.asked.injEq, Mark.Settles, not_false_iff, and_true]
    exact ⟨fun choice => choice.symm.imp_left Eq.symm, fun choice => choice.symm.imp_right Eq.symm⟩
  known other value := by
    rw [stands_concat, ← recalls.known]
    simp [Mark.Settles]
  separated other := by
    refine (recalls.separated other).concat fun equal => ?_
    rw [← recalls.awaited, ← Mark.asked.inj equal]
    exact fresh

theorem askEach (recalls : Recalls awaited known history) {names : List String} (distinct : names.Nodup)
    (fresh : ∀ name ∈ names, name ∉ awaited) :
    Recalls (awaited ++ names) known (history ++ names.map .asked) := by
  induction names generalizing awaited history with
  | nil => simpa using recalls
  | cons name names ih =>
    rw [List.nodup_cons] at distinct
    have first := recalls.ask (fresh name (by simp))
    have others := ih first distinct.2 (by
      intro other member
      rw [List.mem_append, not_or, List.mem_singleton]
      refine ⟨fresh other (by simp [member]), ?_⟩
      rintro rfl
      exact distinct.1 member)
    simpa using others

theorem learn (recalls : Recalls awaited known history) (name value : String) :
    Recalls (awaited.filter (· ≠ name)) (known.insert name value) (history ++ [.learnt name value]) where
  awaited other := by
    have flip : other ≠ name ↔ ¬ name = other := ne_comm
    rw [stands_concat, ← recalls.awaited, List.mem_filter, decide_eq_true_iff, flip]
    simp [Mark.Settles]
  known other found := by
    rw [stands_concat, ← recalls.known, Table.get?_insert]
    by_cases same : name = other <;> simp [Mark.Settles, same]
  separated other := (recalls.separated other).concat (by simp)

theorem forget (recalls : Recalls awaited known history) : Recalls [] [] (history ++ [.forgot]) where
  awaited name := by
    rw [stands_concat]
    simp [Mark.Settles]
  known name value := by
    rw [stands_concat]
    simp [Mark.Settles, Table.get?]
  separated name := (recalls.separated name).concat (by simp)

end Recalls

namespace Palette

def operate (palette : Palette) : Operation → Palette
  | .inquire inquiry => palette.inquire inquiry
  | .learn color => palette.learn color
  | .forget => palette.forget
  | .disconnect => palette.disconnect

/-- The marks that an operation leaves. A query counts only when it has gone out. -/
def marks (palette : Palette) : Operation → List Mark
  | .inquire inquiry =>
    (ColorQuery.names ((palette.inquire inquiry).sent.drop palette.sent.length)).map .asked
  | .learn color => if color.name = "" ∨ color.value = "" then [] else [.learnt color.name color.value]
  | .forget => [.forgot]
  | .disconnect => []

def run (palette : Palette) (operations : List Operation) : Palette :=
  operations.foldl operate palette

def history (palette : Palette) : List Operation → List Mark
  | [] => []
  | operation :: rest => palette.marks operation ++ (palette.operate operation).history rest

theorem operate_recalls {palette : Palette} {history : List Mark}
    (recalls : Recalls palette.awaited palette.known history) (operation : Operation) :
    Recalls (palette.operate operation).awaited (palette.operate operation).known
      (history ++ palette.marks operation) := by
  cases operation with
  | inquire inquiry =>
    obtain ⟨queries, asked⟩ := palette.inquire_asked inquiry
    simp only [operate, marks, asked.sent, List.drop_left, asked.awaited, asked.known]
    exact recalls.askEach asked.distinct asked.fresh
  | learn color =>
    by_cases incomplete : color.name = "" ∨ color.value = ""
    · simpa [operate, marks, Palette.learn, incomplete] using recalls
    · simpa [operate, marks, Palette.learn, incomplete] using recalls.learn color.name color.value
  | forget => exact recalls.forget
  | disconnect => simpa [operate, marks, disconnect] using recalls

theorem run_recalls (palette : Palette) {history : List Mark}
    (recalls : Recalls palette.awaited palette.known history) (operations : List Operation) :
    Recalls (palette.run operations).awaited (palette.run operations).known
      (history ++ palette.history operations) := by
  induction operations generalizing palette history with
  | nil => simpa [run, Palette.history] using recalls
  | cons operation operations ih =>
    have rest := ih (palette.operate operation) (operate_recalls recalls operation)
    simpa [run, Palette.history] using rest

/-- What a palette awaits and knows is determined by its history: a name is awaited when a query for
it went out that nothing has settled since, it is known by the last value that came in and was not
forgotten, and it is never asked about again before something has settled it. -/
theorem determined_by_history (operations : List Operation) (name : String) :
    (name ∈ (empty.run operations).awaited ↔ Stands name (.asked name) (empty.history operations)) ∧
      (∀ value, (empty.run operations).known.get? name = some value ↔
        Stands name (.learnt name value) (empty.history operations)) ∧
      Separated name (empty.history operations) := by
  have recalls := empty.run_recalls .nil operations
  exact ⟨recalls.awaited name, recalls.known name, recalls.separated name⟩

end Palette

end ThemeSense
