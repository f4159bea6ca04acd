import ThemeSense.Cursor.Slot
import ThemeSense.Proofs.Text.Runs

namespace ThemeSense

open Text

/-- The texts that a piece stands for. -/
def Piece.Accepts : Piece → List Char → Prop
  | .keyword text, part => part = text
  | .choice words, part => part ∈ words
  | .run member, part => part ≠ [] ∧ ∀ c ∈ part, member c = true
  | .single member, part => ∃ c, part = [c] ∧ member c = true

theorem mem_runRests {member : Char → Bool} {cs rest : List Char} :
    rest ∈ runRests member cs ↔ ∃ part, cs = part ++ rest ∧ part ≠ [] ∧ ∀ c ∈ part, member c = true := by
  induction cs with
  | nil =>
    simp only [runRests, List.not_mem_nil, List.nil_eq_append_iff, false_iff]
    rintro ⟨part, ⟨rfl, _⟩, nonempty, _⟩
    exact nonempty rfl
  | cons c cs ih =>
    by_cases isMember : member c = true
    · rw [runRests, if_pos isMember, List.mem_cons, ih]
      constructor
      · rintro (rfl | ⟨part, rfl, nonempty, all⟩)
        · exact ⟨[c], rfl, by simp, by simpa using isMember⟩
        · exact ⟨c :: part, rfl, by simp, List.forall_mem_cons.mpr ⟨isMember, all⟩⟩
      · rintro ⟨part, same, nonempty, all⟩
        obtain ⟨d, part, rfl⟩ := List.exists_cons_of_ne_nil nonempty
        obtain ⟨rfl, rfl⟩ := List.cons.inj (same.trans (List.cons_append ..))
        by_cases short : part = []
        · exact .inl (by simp [short])
        · exact .inr ⟨part, rfl, short, (List.forall_mem_cons.mp all).2⟩
    · rw [runRests, if_neg isMember]
      simp only [List.not_mem_nil, false_iff]
      rintro ⟨part, same, nonempty, all⟩
      obtain ⟨d, part, rfl⟩ := List.exists_cons_of_ne_nil nonempty
      obtain ⟨rfl, _⟩ := List.cons.inj (same.trans (List.cons_append ..))
      exact isMember (all c (by simp))

theorem Piece.mem_rests {piece : Piece} {cs rest : List Char} :
    rest ∈ piece.rests cs ↔ ∃ part, cs = part ++ rest ∧ piece.Accepts part := by
  cases piece with
  | keyword text => simp [rests, Accepts, after?_eq_some]
  | choice words =>
    simp only [rests, Accepts, List.mem_filterMap, after?_eq_some]
    exact exists_congr fun word => and_comm
  | run member => exact mem_runRests
  | single member =>
    cases cs with
    | nil => simp [rests, Accepts]
    | cons c cs =>
      constructor
      · intro found
        by_cases isMember : member c = true
        · simp only [rests, if_pos isMember, List.mem_singleton] at found
          exact ⟨[c], by simp [found], c, rfl, isMember⟩
        · simp [rests, isMember] at found
      · rintro ⟨_, same, d, rfl, isMember⟩
        obtain ⟨rfl, rfl⟩ := List.cons.inj same
        simp [rests, isMember]

/-- A text falls into pieces, one behind another. -/
def Splits : List Piece → List Char → Prop
  | [], cs => cs = []
  | piece :: pieces, cs => ∃ part rest, cs = part ++ rest ∧ piece.Accepts part ∧ Splits pieces rest

theorem fits_iff {pieces : List Piece} {cs : List Char} : fits pieces cs = true ↔ Splits pieces cs := by
  induction pieces generalizing cs with
  | nil => simp [fits, Splits]
  | cons piece pieces ih =>
    simp only [fits, Splits, List.any_eq_true, Piece.mem_rests, ih]
    constructor
    · rintro ⟨rest, ⟨part, same, accepted⟩, others⟩
      exact ⟨part, rest, same, accepted, others⟩
    · rintro ⟨part, rest, same, accepted, others⟩
      exact ⟨rest, ⟨part, same, accepted⟩, others⟩

theorem fitsEnd_iff {pieces : List Piece} {cs : List Char} :
    fitsEnd pieces cs = true ↔ ∃ before rest, cs = before ++ rest ∧ Splits pieces rest := by
  induction cs with
  | nil => simp [fitsEnd, fits_iff]
  | cons c cs ih =>
    simp only [fitsEnd, Bool.or_eq_true, fits_iff, ih]
    constructor
    · rintro (whole | ⟨before, rest, rfl, splits⟩)
      · exact ⟨[], c :: cs, rfl, whole⟩
      · exact ⟨c :: before, rest, rfl, splits⟩
    · rintro ⟨before, rest, same, splits⟩
      cases before with
      | nil =>
        rw [List.nil_append] at same
        exact .inl (same ▸ splits)
      | cons d before =>
        obtain ⟨rfl, rfl⟩ := List.cons.inj (same.trans (List.cons_append ..))
        exact .inr ⟨before, rest, rfl, splits⟩

end ThemeSense
