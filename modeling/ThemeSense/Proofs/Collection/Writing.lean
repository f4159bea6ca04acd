import Mathlib.Data.List.Forall2
import ThemeSense.Collection
import ThemeSense.Proofs.Text.Trimming

namespace ThemeSense

/-- A name, and the same name with blanks before and behind it. -/
def Padded (name padded : String) : Prop :=
  Text.Around name.toList padded.toList

/-- A name that neither starts nor ends with a blank. -/
def Unpadded (name : String) : Prop :=
  Text.Bare name.toList

/-- A name without the characters that divide a collection into names. -/
structure Undivided (name : String) : Prop where
  slash : '/' ∉ name.toList
  comma : ',' ∉ name.toList

instance (name : String) : Decidable (Unpadded name) :=
  inferInstanceAs (Decidable (Text.Bare name.toList))

instance (name : String) : Decidable (Undivided name) :=
  decidable_of_iff ('/' ∉ name.toList ∧ ',' ∉ name.toList)
    ⟨fun absent => ⟨absent.1, absent.2⟩, fun undivided => ⟨undivided.slash, undivided.comma⟩⟩

namespace Padded

variable {name padded : String}

theorem refl (name : String) : Padded name name :=
  Text.Around.refl name.toList

theorem mem_iff {c : Char} (around : Padded name padded) (solid : isBlank c = false) :
    c ∈ padded.toList ↔ c ∈ name.toList :=
  Text.Around.mem_iff around solid

theorem undivided_iff (around : Padded name padded) : Undivided padded ↔ Undivided name := by
  have slash := around.mem_iff (by decide : isBlank '/' = false)
  have comma := around.mem_iff (by decide : isBlank ',' = false)
  constructor
  · rintro ⟨noSlash, noComma⟩
    exact ⟨mt slash.mpr noSlash, mt comma.mpr noComma⟩
  · rintro ⟨noSlash, noComma⟩
    exact ⟨mt slash.mp noSlash, mt comma.mp noComma⟩

end Padded

/-- What follows the symbol of a comparison does not make a longer symbol of it. -/
def Comparison.Apart (comparison : Comparison) (rest : List Char) : Prop :=
  comparison = .above ∨ comparison = .below → rest.head? ≠ some '='

namespace Collection

/-- The text of a collection. -/
def print : Collection → String
  | .range first last => first ++ "/" ++ last
  | .list members => ",".intercalate members
  | .compare comparison breakpoint => comparison.symbol ++ breakpoint
  | .alias breakpoint => breakpoint

/-- The same collection with blanks around its names. -/
inductive Spaced : Collection → Collection → Prop where
  | range {first last first' last' : String} (atFirst : Padded first first') (atLast : Padded last last') :
      Spaced (.range first last) (.range first' last')
  | list {members members' : List String} (each : List.Forall₂ Padded members members') :
      Spaced (.list members) (.list members')
  | compare {comparison : Comparison} {breakpoint breakpoint' : String} (padded : Padded breakpoint breakpoint') :
      Spaced (.compare comparison breakpoint) (.compare comparison breakpoint')
  | named {breakpoint breakpoint' : String} (padded : Padded breakpoint breakpoint') :
      Spaced (.alias breakpoint) (.alias breakpoint')

/-- No name of a collection takes part in how the collection is written. -/
def Legible : Collection → Prop
  | .range first last => Unpadded first ∧ Unpadded last ∧ '/' ∉ first.toList
  | .list members => 2 ≤ members.length ∧ ∀ member ∈ members, Unpadded member ∧ Undivided member
  | .compare comparison breakpoint =>
    Unpadded breakpoint ∧ Undivided breakpoint ∧ comparison.Apart breakpoint.toList
  | .alias breakpoint => Unpadded breakpoint ∧ Undivided breakpoint ∧
      breakpoint.toList.head? ≠ some '<' ∧ breakpoint.toList.head? ≠ some '>'

section Symbols

variable {comparison : Comparison} {rest cs : List Char}

theorem head?_of_symbol (found : Text.after? comparison.symbol.toList cs = some rest) :
    cs.head? = some '<' ∨ cs.head? = some '>' := by
  rw [Text.after?_eq_some.mp found]
  cases comparison with
  | atLeast | above => exact .inr rfl
  | atMost | below => exact .inl rfl

theorem comparison?_of_head (notLess : cs.head? ≠ some '<') (notGreater : cs.head? ≠ some '>') :
    comparison? cs = none := by
  rw [comparison?, List.findSome?_eq_none_iff]
  intro comparison _
  rw [Option.map_eq_none_iff, Option.eq_none_iff_forall_ne_some]
  intro rest found
  exact (head?_of_symbol found).elim notLess notGreater

theorem after?_of_shorter (symbol : Char) (short : rest.head? ≠ some '=') :
    Text.after? [symbol, '='] (symbol :: rest) = none := by
  rw [Option.eq_none_iff_forall_ne_some]
  intro behind found
  have same : rest = '=' :: behind := List.cons_injective (Text.after?_eq_some.mp found)
  exact short (by rw [same, List.head?_cons])

theorem comparison?_symbol (apart : comparison.Apart rest) :
    comparison? (comparison.symbol.toList ++ rest) = some (.compare comparison (trimmed rest)) := by
  cases comparison with
  | atLeast | atMost => rfl
  | above =>
    have longer : Text.after? Comparison.atLeast.symbol.toList (Comparison.above.symbol.toList ++ rest) = none :=
      after?_of_shorter '>' (apart (.inl rfl))
    rw [comparison?, Comparison.all, List.findSome?_cons, longer]
    rfl
  | below =>
    have longer : Text.after? Comparison.atMost.symbol.toList (Comparison.below.symbol.toList ++ rest) = none :=
      after?_of_shorter '<' (apart (.inr rfl))
    rw [comparison?, Comparison.all, List.findSome?_cons, List.findSome?_cons, longer]
    rfl

/-- A text that starts with `<` or `>` starts with one symbol that is not part of a longer one. -/
theorem exists_symbol (cs : List Char) :
    (∃ (comparison : Comparison) (rest : List Char), cs = comparison.symbol.toList ++ rest ∧ comparison.Apart rest) ∨
      cs.head? ≠ some '<' ∧ cs.head? ≠ some '>' := by
  cases cs with
  | nil => exact .inr (by simp)
  | cons c rest =>
    by_cases greater : c = '>'
    · subst greater
      by_cases long : rest.head? = some '='
      · exact .inl ⟨.atLeast, rest.tail, by rw [← List.cons_head?_tail long]; rfl, by simp [Comparison.Apart]⟩
      · exact .inl ⟨.above, rest, rfl, fun _ => long⟩
    by_cases less : c = '<'
    · subst less
      by_cases long : rest.head? = some '='
      · exact .inl ⟨.atMost, rest.tail, by rw [← List.cons_head?_tail long]; rfl, by simp [Comparison.Apart]⟩
      · exact .inl ⟨.below, rest, rfl, fun _ => long⟩
    · exact .inr (by simp [greater, less])

theorem trim_symbol_append (comparison : Comparison) (rest : List Char) :
    Text.trim (comparison.symbol.toList ++ rest) = comparison.symbol.toList ++ Text.trimEnd rest := by
  cases comparison with
  | atLeast => exact Text.trim_append_cons ['>'] rest (by decide : isBlank '=' = false)
  | atMost => exact Text.trim_append_cons ['<'] rest (by decide : isBlank '=' = false)
  | above => exact Text.trim_append_cons [] rest (by decide : isBlank '>' = false)
  | below => exact Text.trim_append_cons [] rest (by decide : isBlank '<' = false)

end Symbols

section Parse

variable {text : String}

theorem trimmed_of_around {inner outer : List Char} (around : Text.Around inner outer) :
    trimmed outer = trimmed inner := by
  rw [trimmed, trimmed, around.trim_eq]

theorem trimmed_of_unpadded {name : String} (unpadded : Unpadded name) : trimmed name.toList = name := by
  rw [trimmed, Text.Bare.trim_eq unpadded, String.ofList_toList]

theorem unpadded_trimmed (cs : List Char) : Unpadded (trimmed cs) := by
  rw [Unpadded, trimmed, String.toList_ofList]
  exact Text.bare_trim cs

theorem mem_trimmed {cs : List Char} {c : Char} (solid : isBlank c = false) : c ∈ (trimmed cs).toList ↔ c ∈ cs := by
  rw [trimmed, String.toList_ofList, (Text.around_trim cs).mem_iff solid]

theorem map_trimmed_split {inner outer : List Char} (around : Text.Around inner outer) :
    (Text.split ',' outer).map trimmed = (Text.split ',' inner).map trimmed := by
  have pieces := congrArg (List.map String.ofList) (around.map_trim_split (by decide : isBlank ',' = false))
  rw [List.map_map, List.map_map] at pieces
  exact pieces

/-- What can be read in a text, and how it stands there. -/
inductive Reads (text : String) : Collection → Prop where
  | range (first last : List Char) (whole : text.toList = first ++ '/' :: last) (noSlash : '/' ∉ first) :
      Reads text (.range (trimmed first) (trimmed last))
  | list (noSlash : '/' ∉ text.toList) (comma : ',' ∈ text.toList) :
      Reads text (.list ((Text.split ',' text.toList).map trimmed))
  | compare (comparison : Comparison) (rest : List Char) (undivided : Undivided text)
      (whole : Text.trim text.toList = comparison.symbol.toList ++ rest) (apart : comparison.Apart rest) :
      Reads text (.compare comparison (trimmed rest))
  | named (undivided : Undivided text) (notLess : (Text.trim text.toList).head? ≠ some '<')
      (notGreater : (Text.trim text.toList).head? ≠ some '>') : Reads text (.alias (trimmed text.toList))

theorem parse_of_undivided (undivided : Undivided text) :
    parse text = (comparison? (Text.trim text.toList)).getD (.alias (trimmed text.toList)) := by
  have around := Text.around_trim text.toList
  have noSlash : '/' ∉ Text.trim text.toList := mt (around.mem_iff (by decide)).mpr undivided.slash
  have noComma : ',' ∉ Text.trim text.toList := mt (around.mem_iff (by decide)).mpr undivided.comma
  simp only [parse]
  rw [Text.cut?_of_not_mem noSlash]
  simp only [List.contains_iff_mem, noComma, if_false]
  rfl

theorem Reads.parse_eq {collection : Collection} (reads : Reads text collection) : parse text = collection := by
  cases reads with
  | range first last whole noSlash =>
    have absent : '/' ∉ Text.trimStart first := mt ((Text.around_trimStart first).mem_iff (by decide)).mpr noSlash
    simp only [parse, whole]
    rw [Text.trim_append_cons first last (by decide), Text.cut?_append absent]
    simp only [trimmed_of_around (Text.around_trimStart first), trimmed_of_around (Text.around_trimEnd last)]
  | list noSlash comma =>
    have around := Text.around_trim text.toList
    have absent : '/' ∉ Text.trim text.toList := mt (around.mem_iff (by decide)).mpr noSlash
    have inside : ',' ∈ Text.trim text.toList := (around.mem_iff (by decide)).mp comma
    simp only [parse]
    rw [Text.cut?_of_not_mem absent, map_trimmed_split around]
    simp only [List.contains_iff_mem, inside, if_true]
  | compare comparison rest undivided whole apart =>
    rw [parse_of_undivided undivided, whole, comparison?_symbol apart, Option.getD_some]
  | named undivided notLess notGreater =>
    rw [parse_of_undivided undivided, comparison?_of_head notLess notGreater, Option.getD_none]

theorem reads_parse (text : String) : Reads text (parse text) := by
  suffices found : ∃ collection, Reads text collection by
    obtain ⟨collection, reads⟩ := found
    rwa [reads.parse_eq]
  by_cases slash : '/' ∈ text.toList
  · obtain ⟨first, last, whole, noSlash⟩ := List.eq_append_cons_of_mem slash
    exact ⟨_, .range first last whole noSlash⟩
  by_cases comma : ',' ∈ text.toList
  · exact ⟨_, .list slash comma⟩
  · rcases exists_symbol (Text.trim text.toList) with ⟨comparison, rest, whole, apart⟩ | ⟨notLess, notGreater⟩
    · exact ⟨_, .compare comparison rest ⟨slash, comma⟩ whole apart⟩
    · exact ⟨_, .named ⟨slash, comma⟩ notLess notGreater⟩

end Parse

section Written

variable {text : String}

theorem parse_range {first last first' last' : String} (legible : Legible (.range first last))
    (atFirst : Padded first first') (atLast : Padded last last')
    (padded : Padded (print (.range first' last')) text) : parse text = .range first last := by
  obtain ⟨bareFirst, bareLast, noSlash⟩ := legible
  obtain ⟨before, after, blankBefore, blankAfter, whole⟩ := padded
  have left : Text.Around first.toList (before ++ first'.toList) :=
    Text.Around.trans atFirst (Text.around_append_left blankBefore _)
  have right : Text.Around last.toList (last'.toList ++ after) :=
    Text.Around.trans atLast (Text.around_append_right blankAfter _)
  have divided : text.toList = (before ++ first'.toList) ++ '/' :: (last'.toList ++ after) := by
    simp [whole, print]
  have absent : '/' ∉ before ++ first'.toList := mt (left.mem_iff (by decide)).mp noSlash
  rw [(Reads.range _ _ divided absent).parse_eq, trimmed_of_around left, trimmed_of_around right,
    trimmed_of_unpadded bareFirst, trimmed_of_unpadded bareLast]

theorem names_of_each {members members' : List String} (each : List.Forall₂ Padded members members')
    (names : ∀ member ∈ members, Unpadded member ∧ Undivided member) :
    (∀ member ∈ members', Undivided member) ∧ (members'.map String.toList).map trimmed = members := by
  induction each with
  | nil => simp
  | @cons member member' members members' padded _ ih =>
    obtain ⟨⟨bare, undivided⟩, later⟩ := List.forall_mem_cons.mp names
    obtain ⟨undivided', trimmed'⟩ := ih later
    refine ⟨List.forall_mem_cons.mpr ⟨padded.undivided_iff.mpr undivided, undivided'⟩, ?_⟩
    rw [List.map_cons, List.map_cons, trimmed', trimmed_of_around padded, trimmed_of_unpadded bare]

theorem parse_list {members members' : List String} (legible : Legible (.list members))
    (each : List.Forall₂ Padded members members') (padded : Padded (print (.list members')) text) :
    parse text = .list members := by
  obtain ⟨several, names⟩ := legible
  obtain ⟨undivided, recovered⟩ := names_of_each each names
  rw [each.length_eq] at several
  have pieces : Text.split ',' (print (.list members')).toList = members'.map String.toList := by
    rw [print, String.toList_intercalate]
    refine Text.split_intercalate (by rintro none; simp_all) ?_
    exact List.forall_mem_map.mpr fun member inside => (undivided member inside).comma
  have comma : ',' ∈ (print (.list members')).toList := by
    have count := Text.length_split ',' (print (.list members')).toList
    rw [pieces, List.length_map] at count
    exact List.count_pos_iff.mp (by omega)
  have noSlash : '/' ∉ (print (.list members')).toList := fun inside => by
    obtain ⟨piece, isPiece, found⟩ := Text.exists_mem_split.mpr ⟨inside, (by decide : '/' ≠ ',')⟩
    rw [pieces] at isPiece
    obtain ⟨member, isMember, rfl⟩ := List.mem_map.mp isPiece
    exact (undivided member isMember).slash found
  have comma' : ',' ∈ text.toList := (padded.mem_iff (by decide)).mpr comma
  have noSlash' : '/' ∉ text.toList := mt (padded.mem_iff (by decide)).mp noSlash
  rw [(Reads.list noSlash' comma').parse_eq, map_trimmed_split padded, pieces, recovered]

theorem parse_compare {comparison : Comparison} {breakpoint breakpoint' : String}
    (legible : Legible (.compare comparison breakpoint)) (atName : Padded breakpoint breakpoint')
    (padded : Padded (print (.compare comparison breakpoint')) text) : parse text = .compare comparison breakpoint := by
  obtain ⟨bare, undivided, apart⟩ := legible
  have undivided' : Undivided text := by
    rw [padded.undivided_iff]
    have name := atName.undivided_iff.mpr undivided
    have slash : '/' ∉ comparison.symbol.toList := by cases comparison <;> decide
    have comma : ',' ∉ comparison.symbol.toList := by cases comparison <;> decide
    constructor
    · simpa [print, slash] using name.slash
    · simpa [print, comma] using name.comma
  have whole : Text.trim text.toList = comparison.symbol.toList ++ Text.trimEnd breakpoint'.toList := by
    rw [Text.Around.trim_eq padded, print, String.toList_append, trim_symbol_append]
  have apart' : comparison.Apart (Text.trimEnd breakpoint'.toList) := by
    intro short starts
    refine apart short (Text.Around.head?_of_solid atName (by decide) ?_)
    rw [← Text.trimEnd_append_blanks breakpoint'.toList, List.head?_append, starts]
    rfl
  rw [(Reads.compare comparison _ undivided' whole apart').parse_eq, ← trimmed_of_around (Text.around_trimEnd _),
    trimmed_of_around atName, trimmed_of_unpadded bare]

theorem parse_alias {breakpoint text : String} (legible : Legible (.alias breakpoint))
    (padded : Padded breakpoint text) : parse text = .alias breakpoint := by
  obtain ⟨bare, undivided, notLess, notGreater⟩ := legible
  have whole : Text.trim text.toList = breakpoint.toList := by
    rw [Text.Around.trim_eq padded, Text.Bare.trim_eq bare]
  have named := Reads.named (padded.undivided_iff.mpr undivided) (by rwa [whole]) (by rwa [whole])
  rw [named.parse_eq, trimmed_of_around padded, trimmed_of_unpadded bare]

/-- The names that are read in a text do not take part in how a collection is written, except that a symbol
may be kept apart from its name by blanks only. -/
theorem Reads.legible {collection : Collection} (reads : Reads text collection)
    (apart : ∀ comparison breakpoint, collection = .compare comparison breakpoint →
      comparison.Apart breakpoint.toList) : collection.Legible := by
  have undivided_trimmed {cs : List Char} (noSlash : '/' ∉ cs) (noComma : ',' ∉ cs) : Undivided (trimmed cs) :=
    ⟨mt (mem_trimmed (by decide)).mp noSlash, mt (mem_trimmed (by decide)).mp noComma⟩
  cases reads with
  | range first last whole noSlash =>
    exact ⟨unpadded_trimmed first, unpadded_trimmed last, mt (mem_trimmed (by decide)).mp noSlash⟩
  | list noSlash comma =>
    constructor
    · have count := List.count_pos_iff.mpr comma
      rw [List.length_map, Text.length_split]
      omega
    · refine List.forall_mem_map.mpr fun piece isPiece => ⟨unpadded_trimmed piece, undivided_trimmed ?_ ?_⟩
      · exact fun inside => noSlash (Text.exists_mem_split.mp ⟨piece, isPiece, inside⟩).1
      · exact fun inside => (Text.exists_mem_split.mp ⟨piece, isPiece, inside⟩).2 rfl
  | compare comparison rest undivided whole _ =>
    have within {c : Char} (solid : isBlank c = false) (inside : c ∈ rest) : c ∈ text.toList := by
      rw [(Text.around_trim text.toList).mem_iff solid, whole]
      exact List.mem_append_right _ inside
    refine ⟨unpadded_trimmed rest, undivided_trimmed ?_ ?_, apart comparison _ rfl⟩
    · exact mt (within (by decide)) undivided.slash
    · exact mt (within (by decide)) undivided.comma
  | named undivided notLess notGreater =>
    refine ⟨unpadded_trimmed _, undivided_trimmed undivided.slash undivided.comma, ?_⟩
    rw [trimmed, String.toList_ofList]
    exact ⟨notLess, notGreater⟩

theorem Reads.apart {comparison : Comparison} {breakpoint : String}
    (reads : Reads (print (.compare comparison breakpoint)) (.compare comparison breakpoint)) :
    comparison.Apart breakpoint.toList := by
  cases reads with
  | compare _ rest undivided whole apart =>
    -- With no blank between them, what follows the symbol is the name itself.
    rw [print, String.toList_append, trim_symbol_append, Text.Bare.trimEnd_eq (unpadded_trimmed rest)] at whole
    rwa [List.append_cancel_left whole]

theorem legible_of_parse_print {collection : Collection} (same : parse collection.print = collection) :
    collection.Legible := by
  have reads : Reads collection.print collection := by
    have found := reads_parse collection.print
    rwa [same] at found
  refine reads.legible ?_
  rintro comparison breakpoint rfl
  exact reads.apart

end Written

theorem Spaced.refl (collection : Collection) : Spaced collection collection := by
  cases collection with
  | range first last => exact .range (.refl first) (.refl last)
  | list members => exact .list (List.forall₂_same.mpr fun member _ => .refl member)
  | compare comparison breakpoint => exact .compare (.refl breakpoint)
  | «alias» breakpoint => exact .named (.refl breakpoint)

theorem parse_of_spaced {collection spaced : Collection} {text : String} (legible : collection.Legible)
    (names : Spaced collection spaced) (padded : Padded spaced.print text) : parse text = collection := by
  cases names with
  | range atFirst atLast => exact parse_range legible atFirst atLast padded
  | list each => exact parse_list legible each padded
  | compare atName => exact parse_compare legible atName padded
  | named atName => exact parse_alias legible (Text.Around.trans atName padded)

/-- Collections are read back from their texts, whatever blanks are added around the text and around the names
in it. The conditions on the names are needed: without blanks, exactly the legible collections are read back. -/
theorem read_back_from_text (collection : Collection) :
    (collection.Legible → ∀ spaced text, Spaced collection spaced → Padded spaced.print text →
      parse text = collection) ∧
    (parse collection.print = collection ↔ collection.Legible) := by
  refine ⟨fun legible spaced text names padded => parse_of_spaced legible names padded, ?_, fun legible => ?_⟩
  · exact legible_of_parse_print
  · exact parse_of_spaced legible (.refl collection) (.refl _)

/-- Blanks of several kinds around an empty name and around names with symbols in them. -/
theorem read_back_from_text_among_blanks :
    let collection : Collection := .list ["<a", "", "=b c"]
    let spaced : Collection := .list ["<a\t", " ", "\n=b c"]
    collection.Legible ∧ Spaced collection spaced ∧ Padded spaced.print " <a\t, ,\n=b c\r\n" ∧
      parse " <a\t, ,\n=b c\r\n" = collection := by
  intro collection spaced
  have legible : collection.Legible := ⟨by decide, by decide⟩
  have names : Spaced collection spaced := .list (.cons
    (Text.around_append_right (List.all_eq_true.mp (rfl : ['\t'].all isBlank = true)) _) (.cons
    (Text.around_append_right (List.all_eq_true.mp (rfl : [' '].all isBlank = true)) _) (.cons
    (Text.around_append_left (List.all_eq_true.mp (rfl : ['\n'].all isBlank = true)) _) .nil)))
  have padded : Padded spaced.print " <a\t, ,\n=b c\r\n" :=
    ⟨[' '], ['\r', '\n'], List.all_eq_true.mp rfl, List.all_eq_true.mp rfl, by decide⟩
  exact ⟨legible, names, padded, (read_back_from_text collection).1 legible spaced _ names padded⟩

end Collection

end ThemeSense
