import ThemeSense.Text.Blank
import ThemeSense.Text.Word

namespace ThemeSense

/-- What a stretch of text has to look like. -/
inductive Pattern where
  | word (text : List Char)
  /-- Members of a class, as many as possible: at least `least`, and at most `most` if that is given. -/
  | run (member : Char → Bool) (least : Nat) (most : Option Nat)
  /-- A place with a word character on one side only. -/
  | wordEdge
  /-- The first pattern, or else the second. -/
  | either (first second : Pattern)
  | chain (first second : Pattern)
  /-- A part whose text is kept. -/
  | group (inner : Pattern)

namespace Pattern

/-- What has been matched from a place on. A group is kept with all that was matched before it. -/
structure Match where
  /-- The character before the place. -/
  previous : Option Char
  taken : List Char
  groups : List (List Char × List Char)
deriving Repr, DecidableEq

namespace Match

def start (previous : Option Char) : Match :=
  ⟨previous, [], []⟩

def take (found : Match) (text : List Char) : Match :=
  { found with taken := found.taken ++ text }

/-- The character that was passed last. -/
def last? (found : Match) : Option Char :=
  found.taken.getLast?.or found.previous

/-- Ends a group that was begun after an earlier part of the match. -/
def close (found earlier : Match) : Match :=
  { found with groups := found.groups ++ [(earlier.taken, found.taken.drop earlier.taken.length)] }

end Match

section Search

variable {α : Type}

/-- Tries the stretches of members at the start of the text, the longest first. -/
def stretch? (member : Char → Bool) (least : Nat) (most : Option Nat) (found : Match)
    (next : Match → List Char → Option α) : List Char → Option α
  | [] => if least = 0 then next found [] else none
  | c :: rest =>
    (if member c ∧ most ≠ some 0 then
      stretch? member (least - 1) (most.map (· - 1)) (found.take [c]) next rest
    else none).or
    (if least = 0 then next found (c :: rest) else none)

/-- Tries the ways in which the pattern can stand at the start of the text, in the order in which it prefers them,
until what is left to do succeeds behind one of them. -/
def search (found : Match) (cs : List Char) (next : Match → List Char → Option α) : Pattern → Option α
  | word text => (Text.after? text cs).bind (next (found.take text))
  | run member least most => stretch? member least most found next cs
  | wordEdge => if found.last?.any isWordChar != cs.head?.any isWordChar then next found cs else none
  | either first second => (first.search found cs next).or (second.search found cs next)
  | chain first second => first.search found cs fun found cs => second.search found cs next
  | group inner => inner.search found cs fun after => next (after.close found)

end Search

/-- Ends a search: nothing is left to do. -/
def done (found : Match) (_ : List Char) : Option Match :=
  some found

/-- The match at the start of the text that the pattern prefers. -/
def first? (pattern : Pattern) (previous : Option Char) (cs : List Char) : Option Match :=
  pattern.search (.start previous) cs done

/-- A match and the byte offset at which it starts. -/
structure Occurrence where
  start : Nat
  found : Match
deriving Repr, DecidableEq

/-- The matches in a text that starts at a byte offset, from left to right. The search goes on behind a match: it
passes over the characters that belong to the last one. -/
def occurrences (pattern : Pattern) (offset : Nat) (previous : Option Char) (belonging : Nat) :
    List Char → List Occurrence
  | [] => []
  | c :: rest =>
    match belonging with
    | belonging + 1 => pattern.occurrences (offset + c.utf8Size) (some c) belonging rest
    | 0 =>
      match pattern.first? previous (c :: rest) with
      | some found =>
        ⟨offset, found⟩ :: pattern.occurrences (offset + c.utf8Size) (some c) (found.taken.length - 1) rest
      | none => pattern.occurrences (offset + c.utf8Size) (some c) 0 rest

end Pattern

end ThemeSense
