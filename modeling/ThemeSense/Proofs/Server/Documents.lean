import Mathlib.Data.List.Induction
import ThemeSense.Server.Dispatch

namespace ThemeSense

namespace Notice

/-- The texts that a notice carries for an open document, each of them the whole text after a change. -/
def texts (uri : Uri) : Notice → List (List Char)
  | .didChange other texts => if other = uri then texts else []
  | _ => []

def opens (uri : Uri) : Notice → Bool
  | .didOpen other _ => other = uri
  | _ => false

def closes (uri : Uri) : Notice → Bool
  | .didClose other => other = uri
  | _ => false

/-- Whether a notice makes sense for an open document only. -/
def needsOpen (uri : Uri) : Notice → Bool
  | .didChange other _ => other = uri
  | .didClose other => other = uri
  | _ => false

/-- A document was opened with a text, and is still open after `since`. -/
def OpenSince (uri : Uri) (text : List Char) (since notices : List Notice) : Prop :=
  (∃ before, notices = before ++ .didOpen uri text :: since) ∧
    ∀ notice ∈ since, notice.opens uri = false ∧ notice.closes uri = false

def IsOpen (uri : Uri) (notices : List Notice) : Prop :=
  ∃ text since, OpenSince uri text since notices

/-- A document is open whenever it is changed or closed. -/
def Orderly (uri : Uri) (notices : List Notice) : Prop :=
  ∀ before notice after, notices = before ++ notice :: after → notice.needsOpen uri = true → IsOpen uri before

/-- The text of the last change, or the one with which the document was opened. -/
def currentText (uri : Uri) (text : List Char) (since : List Notice) : List Char :=
  (since.flatMap (texts uri)).getLast?.getD text

/-- The text that each notice leaves when only its first change counts. -/
def keptText (uri : Uri) (text : List Char) (since : List Notice) : List Char :=
  since.foldl (fun text notice => (notice.texts uri).head?.getD text) text

/-- The last notice that carries a text for the document starts with the text that it ends with. -/
def StartsAsItEnds (uri : Uri) (since : List Notice) : Prop :=
  ∀ texts, ((since.map (Notice.texts uri)).filter (· ≠ [])).getLast? = some texts → texts.head? = texts.getLast?

variable {uri : Uri} {text : List Char} {since notices : List Notice} {notice : Notice}

theorem keptText_concat : keptText uri text (since ++ [notice]) =
    (notice.texts uri).head?.getD (keptText uri text since) := by
  simp [keptText]

theorem currentText_concat : currentText uri text (since ++ [notice]) =
    (notice.texts uri).getLast?.getD (currentText uri text since) := by
  cases last : (notice.texts uri).getLast? <;> simp [currentText, List.flatMap_append, List.getLast?_append, last]

/-- The first change is enough exactly when the last notice that counts starts with its last change. -/
theorem keptText_eq_currentText_iff :
    keptText uri text since = currentText uri text since ↔ StartsAsItEnds uri since := by
  induction since using List.reverseRecOn with
  | nil => simp [keptText, currentText, StartsAsItEnds]
  | append_singleton since notice ih =>
    rw [keptText_concat, currentText_concat]
    cases carried : notice.texts uri with
    | nil => simpa [StartsAsItEnds, List.filter_append, carried] using ih
    | cons first rest =>
      have last := List.getLast?_eq_some_getLast (List.cons_ne_nil first rest)
      simp [StartsAsItEnds, List.filter_append, carried, last]

theorem isOpen_of_opens (notices : List Notice) (opens : notice.opens uri = true) :
    IsOpen uri (notices ++ [notice]) := by
  cases notice with
  | didOpen other text =>
    have same : other = uri := by simpa [Notice.opens] using opens
    exact ⟨text, [], ⟨notices, by rw [same]⟩, by simp⟩
  | _ => cases opens

theorem IsOpen.concat (isOpen : IsOpen uri notices) (unclosed : notice.closes uri = false) :
    IsOpen uri (notices ++ [notice]) := by
  cases opens : notice.opens uri with
  | true => exact isOpen_of_opens notices opens
  | false =>
    obtain ⟨text, since, ⟨before, rfl⟩, unchanged⟩ := isOpen
    refine ⟨text, since ++ [notice], ⟨before, by simp⟩, ?_⟩
    simpa [or_imp, forall_and, opens, unclosed] using unchanged

theorem not_isOpen_of_closes (notices : List Notice) (closes : notice.closes uri = true) :
    ¬ IsOpen uri (notices ++ [notice]) := by
  rintro ⟨text, since, ⟨before, split⟩, unchanged⟩
  cases since using List.reverseRecOn with
  | nil =>
    cases (List.append_inj' split rfl).2
    cases closes
  | append_singleton since last =>
    rw [← List.cons_append, ← List.append_assoc] at split
    cases (List.append_inj' split rfl).2
    simp [(unchanged notice (by simp)).2] at closes

theorem texts_eq_nil (unneeded : notice.needsOpen uri = false) : notice.texts uri = [] := by
  cases notice with
  | didChange other texts =>
    have different : other ≠ uri := by simpa [needsOpen] using unneeded
    exact if_neg different
  | _ => rfl

theorem Orderly.nil : Orderly uri [] := by
  simp [Orderly]

theorem Orderly.concat (orderly : Orderly uri notices) (notice : Notice)
    (known : notice.needsOpen uri = true → IsOpen uri notices) : Orderly uri (notices ++ [notice]) := by
  intro before other after split needs
  cases after using List.reverseRecOn with
  | nil =>
    obtain ⟨rfl, same⟩ := List.append_inj' split rfl
    cases same
    exact known needs
  | append_singleton after last =>
    rw [← List.cons_append, ← List.append_assoc] at split
    exact orderly before other after (List.append_inj' split rfl).1 needs

theorem Orderly.other (orderly : Orderly uri notices) (notice : Notice) (unneeded : notice.needsOpen uri = false) :
    Orderly uri (notices ++ [notice]) :=
  orderly.concat notice fun needs => absurd needs (by simp [unneeded])

theorem Orderly.of_concat (orderly : Orderly uri (notices ++ [notice])) : Orderly uri notices := by
  intro before other after split needs
  exact orderly before other (after ++ [notice]) (by simp [split]) needs

end Notice

namespace Session

variable {session : Session} {uri : Uri}

theorem document?_closeDocument (session : Session) (uri other : Uri) :
    (session.closeDocument other).document? uri = if other = uri then none else session.document? uri := by
  rw [document?, closeDocument, List.find?_filter, document?]
  by_cases same : other = uri
  · simp [same]
  · rw [if_neg same]
    congr 2
    funext row
    by_cases here : row.1 = uri
    · simp [here, Ne.symm same]
    · simp [here]

theorem document?_setDocument (session : Session) (uri other : Uri) (text : List Char) :
    (session.setDocument other text).document? uri = if other = uri then some text else session.document? uri := by
  by_cases same : other = uri
  · simp [setDocument, document?, same]
  · have rest : (session.setDocument other text).document? uri = (session.closeDocument other).document? uri := by
      simp [setDocument, closeDocument, document?, same]
    rw [rest, document?_closeDocument, if_neg same, if_neg same]

theorem document?_reload (session : Session) (disk : Disk) (document : Option Path) (uri : Uri) :
    (session.reload disk document).2.document? uri = session.document? uri := by
  cases document <;> rfl

theorem document?_didOpen (session : Session) (disk : Disk) (uri other : Uri) (text : List Char) :
    (session.didOpen disk other text).2.document? uri = if other = uri then some text else session.document? uri := by
  rw [← document?_setDocument, didOpen]
  split
  · exact document?_reload _ disk _ uri
  · rfl

/-- A notice that neither opens nor closes a document leaves it as it is, or puts the first of its texts
in its place. -/
theorem document?_heed (session : Session) (disk : Disk) {notice : Notice} (unopened : notice.opens uri = false)
    (unclosed : notice.closes uri = false) :
    (session.heed disk notice).2.document? uri = (notice.texts uri).head?.or (session.document? uri) := by
  cases notice with
  | didOpen other text =>
    have different : other ≠ uri := by simpa [Notice.opens] using unopened
    exact (document?_didOpen session disk uri other text).trans (if_neg different)
  | didChange other texts =>
    cases texts with
    | nil => simp [heed, didChange, Notice.texts]
    | cons first rest =>
      by_cases same : other = uri <;> simp [heed, didChange, document?_setDocument, Notice.texts, same]
  | didClose other =>
    have different : other ≠ uri := by simpa [Notice.closes] using unclosed
    exact (document?_closeDocument session uri other).trans (if_neg different)
  | filesChanged files =>
    simp only [heed, filesChanged]
    split <;> rfl
  | _ => rfl

theorem document?_of_closes (session : Session) (disk : Disk) {notice : Notice} (closes : notice.closes uri = true) :
    (session.heed disk notice).2.document? uri = none := by
  cases notice with
  | didClose other =>
    have same : other = uri := by simpa [Notice.closes] using closes
    exact (document?_closeDocument session uri other).trans (if_pos same)
  | _ => cases closes

/-- Heeds one notice after another, each with the disk as it is then. -/
def heedAll (session : Session) (notices : List (Disk × Notice)) : Session :=
  notices.foldl (fun session entry => (session.heed entry.1 entry.2).2) session

theorem heedAll_append (session : Session) (first second : List (Disk × Notice)) :
    session.heedAll (first ++ second) = (session.heedAll first).heedAll second :=
  List.foldl_append

/-- While a document stays open, it holds the first text of the last notice that had one for it. -/
theorem document?_heedAll_of_open {since : List (Disk × Notice)} {text : List Char}
    (holds : session.document? uri = some text)
    (unchanged : ∀ entry ∈ since, entry.2.opens uri = false ∧ entry.2.closes uri = false) :
    (session.heedAll since).document? uri = some (Notice.keptText uri text (since.map (·.2))) := by
  induction since generalizing session text with
  | nil => exact holds
  | cons entry since ih =>
    obtain ⟨⟨unopened, unclosed⟩, rest⟩ := List.forall_mem_cons.mp unchanged
    refine ih ?_ rest
    rw [document?_heed session entry.1 unopened unclosed, holds]
    exact Option.or_some

theorem document?_of_openSince {notices : List (Disk × Notice)} {text : List Char} {since : List Notice}
    (isOpen : Notice.OpenSince uri text since (notices.map (·.2))) :
    (session.heedAll notices).document? uri = some (Notice.keptText uri text since) := by
  obtain ⟨⟨before, split⟩, unchanged⟩ := isOpen
  obtain ⟨first, second, rfl, _, split⟩ := List.map_eq_append_iff.mp split
  obtain ⟨entry, rest, rfl, opens, rfl⟩ := List.map_eq_cons_iff.mp split
  have opened : ((session.heedAll first).heed entry.1 entry.2).2.document? uri = some text := by
    rw [opens]
    exact (document?_didOpen _ entry.1 uri uri text).trans (if_pos rfl)
  rw [heedAll_append]
  exact document?_heedAll_of_open opened fun later member => unchanged later.2 (List.mem_map_of_mem member)

theorem document?_of_not_open {notices : List (Disk × Notice)} (unknown : session.document? uri = none)
    (orderly : Notice.Orderly uri (notices.map (·.2))) (closed : ¬ Notice.IsOpen uri (notices.map (·.2))) :
    (session.heedAll notices).document? uri = none := by
  induction notices using List.reverseRecOn with
  | nil => exact unknown
  | append_singleton notices entry ih =>
    rw [List.map_append, List.map_singleton] at orderly closed
    have last : (session.heedAll (notices ++ [entry])) = ((session.heedAll notices).heed entry.1 entry.2).2 :=
      heedAll_append session notices [entry]
    rw [last]
    cases closes : entry.2.closes uri with
    | true => exact document?_of_closes _ _ closes
    | false =>
      have stillClosed : ¬ Notice.IsOpen uri (notices.map (·.2)) := fun isOpen => closed (isOpen.concat closes)
      have unopened : entry.2.opens uri = false :=
        Bool.eq_false_iff.mpr fun opens => closed (Notice.isOpen_of_opens _ opens)
      have unneeded : entry.2.needsOpen uri = false :=
        Bool.eq_false_iff.mpr fun needs => stillClosed (orderly _ entry.2 [] rfl needs)
      rw [document?_heed _ _ unopened closes, Notice.texts_eq_nil unneeded]
      exact ih orderly.of_concat stillClosed

/-- The session as it would be if this document were the only one. -/
def withOnly (session : Session) (uri : Uri) (text : List Char) : Session :=
  { session with documents := [(uri, text)] }

/-- What is answered about a document is what would be answered if it had this text. -/
def AnswersFrom (session : Session) (uri : Uri) (text : List Char) : Prop :=
  ∀ position, (session.completion uri position).1 = ((session.withOnly uri text).completion uri position).1 ∧
    (session.hover uri position).1 = ((session.withOnly uri text).hover uri position).1 ∧
    (session.documentColors uri).1 = ((session.withOnly uri text).documentColors uri).1

theorem answersFrom_of_document? {text : List Char} (held : session.document? uri = some text) :
    session.AnswersFrom uri text := by
  have alone : (session.withOnly uri text).document? uri = some text := by simp [withOnly, document?]
  have theme : (session.withOnly uri text).theme = session.theme := rfl
  intro position
  simp [completion, hover, documentColors, held, alone, theme]

theorem no_answers (unknown : session.document? uri = none) (position : Position) :
    session.completion uri position = (none, session) ∧ session.hover uri position = (none, session) ∧
      session.documentColors uri = ([], session) := by
  simp [completion, hover, documentColors, unknown]

/-- A server answers from the text that it holds for a document, whatever it is told about others, and
not at all about a document that is not open. It holds the current text exactly as long as the last
notice with texts for the document starts with the one that it ends with. -/
theorem answers_from_text_held (session : Session) (notices : List (Disk × Notice)) (uri : Uri)
    (unknown : session.document? uri = none) (orderly : Notice.Orderly uri (notices.map (·.2))) :
    let after := session.heedAll notices
    (∀ text since, Notice.OpenSince uri text since (notices.map (·.2)) →
      ∃ held, after.document? uri = some held ∧ after.AnswersFrom uri held ∧
        (held = Notice.currentText uri text since ↔ Notice.StartsAsItEnds uri since)) ∧
    (¬ Notice.IsOpen uri (notices.map (·.2)) → ∀ position,
      after.completion uri position = (none, after) ∧ after.hover uri position = (none, after) ∧
      after.documentColors uri = ([], after)) := by
  intro after
  constructor
  · intro text since isOpen
    have held : after.document? uri = some (Notice.keptText uri text since) := document?_of_openSince isOpen
    exact ⟨_, held, answersFrom_of_document? held, Notice.keptText_eq_currentText_iff⟩
  · intro closed
    exact no_answers (document?_of_not_open unknown orderly closed)

/-- While the document is changed, another one is opened and closed. -/
theorem answers_from_text_held_beside_other :
    let disk : Disk := fun _ => .error .missing
    let uri : Uri := ⟨"file".toList, some [], some ["a.css".toList], []⟩
    let other : Uri := ⟨"file".toList, some [], some ["b.css".toList], []⟩
    let opening : Notice := .didOpen uri []
    let since : List Notice :=
      [.didOpen other "#0af".toList, .didChange uri ["#fff".toList, "#000".toList, "#fff".toList], .didClose other]
    let after := Session.start.heedAll ((opening :: since).map (disk, ·))
    Notice.Orderly uri (opening :: since) ∧ Notice.Orderly other (opening :: since) ∧
      after.AnswersFrom uri "#fff".toList ∧ ∀ position, (after.completion other position).1 = none := by
  intro disk uri other opening since after
  have ownOpen : Notice.IsOpen uri (opening :: since.take 1) := ⟨_, _, ⟨[], rfl⟩, by decide⟩
  have otherOpen : Notice.IsOpen other (opening :: since.take 2) := ⟨_, _, ⟨[opening], rfl⟩, by decide⟩
  have own : Notice.Orderly uri (opening :: since) :=
    (((Notice.Orderly.nil.other _ (by decide)).other _ (by decide)).concat _ fun _ => ownOpen).other _ (by decide)
  have others : Notice.Orderly other (opening :: since) :=
    (((Notice.Orderly.nil.other _ (by decide)).other _ (by decide)).other _ (by decide)).concat _ fun _ => otherOpen
  have closed : ¬ Notice.IsOpen other (opening :: since) :=
    Notice.not_isOpen_of_closes (opening :: since.take 2) (by decide)
  have starts : Notice.StartsAsItEnds uri since := by
    rintro texts ⟨⟩
    rfl
  obtain ⟨held, _, answers, current⟩ :=
    (answers_from_text_held Session.start ((opening :: since).map (disk, ·)) uri rfl own).1 [] since
      ⟨⟨[], rfl⟩, by decide⟩
  have nothing := (answers_from_text_held Session.start ((opening :: since).map (disk, ·)) other rfl others).2 closed
  rw [current.mpr starts] at answers
  exact ⟨own, others, answers, fun position => congrArg Prod.fst (nothing position).1⟩

/-- Of two changes in one notice the first stays, although the second is the current text. -/
theorem stale_text_answered :
    let disk : Disk := fun _ => .error .missing
    let uri : Uri := ⟨"file".toList, some [], some ["a.css".toList], []⟩
    let change : Notice := .didChange uri ["#fff".toList, "#000".toList]
    let after := Session.start.heedAll [(disk, .didOpen uri []), (disk, change)]
    Notice.Orderly uri [.didOpen uri [], change] ∧ Notice.OpenSince uri [] [change] [.didOpen uri [], change] ∧
      Notice.currentText uri [] [change] = "#000".toList ∧ after.document? uri = some "#fff".toList ∧
      (after.documentColors uri).1 = [⟨⟨⟨0, 0⟩, ⟨0, 4⟩⟩, ⟨255, 255, 255, 255⟩⟩] := by
  intro disk uri change after
  have opened : Notice.IsOpen uri [.didOpen uri []] := Notice.isOpen_of_opens [] (by decide)
  have orderly : Notice.Orderly uri [.didOpen uri [], change] :=
    (Notice.Orderly.nil.other _ rfl).concat change fun _ => opened
  have held : after.document? uri = some "#fff".toList := by decide +kernel
  have colors : (after.documentColors uri).1 = [⟨⟨⟨0, 0⟩, ⟨0, 4⟩⟩, ⟨255, 255, 255, 255⟩⟩] := by decide +kernel
  exact ⟨orderly, ⟨⟨[], rfl⟩, by decide⟩, by decide, held, colors⟩

end Session

end ThemeSense
