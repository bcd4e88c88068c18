import JavaAtlas.Text.Blank
import JavaAtlas.Text.Digit
import JavaAtlas.Text.Word

/-!
# Patterns over text

A pattern describes a piece of text and marks parts of it. Choices and repetitions are ordered:
a greedy repetition prefers more rounds, a lazy one fewer, and a match is the first in this order
that lets the whole pattern succeed. `Pattern.run` is the backtracking search for it, written with
a continuation that stands for what is still to be matched.
-/

namespace JavaAtlas

/-- A pattern whose marked parts carry labels of type `κ`. -/
inductive Pattern (κ : Type)
  /-- Nothing, which always matches. -/
  | nothing
  /-- One character of a class. -/
  | one (holds : Char → Bool)
  /-- As many characters of a class as possible, or fewer if need be. -/
  | greedy (holds : Char → Bool)
  /-- As few characters of a class as possible, or more if need be. -/
  | lazy (holds : Char → Bool)
  /-- One pattern after the other. -/
  | seq (first second : Pattern κ)
  /-- The first pattern or, failing that, the second. -/
  | either (first second : Pattern κ)
  /-- As many rounds of a pattern as possible, none of them empty. -/
  | many (body : Pattern κ)
  /-- A part of the match to be remembered. -/
  | part (label : κ) (body : Pattern κ)
  /-- The edge between a word character and another character or an end of the text. -/
  | wordEdge
  /-- The beginning of a line. -/
  | lineStart
  /-- The end of the text. -/
  | textEnd

/-- A marked part of a match, as offsets into the text. -/
structure Part (κ : Type) where
  label : κ
  start : Nat
  stop : Nat
  deriving Repr

/-- A place in the text, with the character before it, and the parts marked on the way there. -/
structure Cursor (κ : Type) where
  offset : Nat
  before : Option Char
  rest : List Char
  parts : List (Part κ)

namespace Cursor

variable {κ : Type}

def ofText (s : List Char) : Cursor κ := ⟨0, none, s, []⟩

/-- Step over a character, which the rest starts with. -/
def advance (cur : Cursor κ) (c : Char) (rest : List Char) : Cursor κ :=
  { cur with offset := cur.offset + 1, before := some c, rest := rest }

/-- Whether a word edge is here. -/
def atWordEdge (cur : Cursor κ) : Bool :=
  cur.before.any isWordChar != cur.rest.head?.any isWordChar

/-- Whether a line begins here. -/
def atLineStart (cur : Cursor κ) : Bool :=
  cur.before.all (· == '\n')

end Cursor

namespace Pattern

variable {κ β : Type}

/-- What remains to be done after a pattern: an answer, or a reason to try further. -/
abbrev Rest (κ β : Type) := Cursor κ → Option β

/-- The places reached by stepping over characters of a class, farthest first. -/
def reach (holds : Char → Bool) (found : List (Cursor κ)) (cur : Cursor κ) :
    List Char → List (Cursor κ)
  | [] => cur :: found
  | c :: rest =>
    if holds c then reach holds (cur :: found) (cur.advance c rest) rest else cur :: found

/-- The first answer that a list of places gives. -/
def firstOf (k : Rest κ β) : List (Cursor κ) → Option β
  | [] => none
  | cur :: others => match k cur with
    | some answer => some answer
    | none => firstOf k others

/-- Step over as few characters of a class as lead to an answer. -/
def runLazy (holds : Char → Bool) (k : Rest κ β) (cur : Cursor κ) : List Char → Option β
  | [] => k cur
  | c :: rest => match k cur with
    | some answer => some answer
    | none => if holds c then runLazy holds k (cur.advance c rest) rest else none

/-- Repeat a step as often as leads to an answer; `rounds` bounds the number of rounds. -/
def runMany (step : Rest κ β → Rest κ β) (k : Rest κ β) : Nat → Rest κ β
  | 0, cur => k cur
  | rounds + 1, cur =>
    let more := step fun next =>
      if cur.offset < next.offset then runMany step k rounds next else none
    match more cur with
    | some answer => some answer
    | none => k cur

/-- Match a pattern and then do what remains. A text of `size` characters allows no more than
`size` rounds of any repetition, since no round is empty. -/
def run (size : Nat) : Pattern κ → Rest κ β → Rest κ β
  | .nothing, k, cur => k cur
  | .one holds, k, cur => match cur.rest with
    | [] => none
    | c :: rest => if holds c then k (cur.advance c rest) else none
  | .greedy holds, k, cur => firstOf k (reach holds [] cur cur.rest)
  | .lazy holds, k, cur => runLazy holds k cur cur.rest
  | .seq p q, k, cur => run size p (run size q k) cur
  | .either p q, k, cur => match run size p k cur with
    | some answer => some answer
    | none => run size q k cur
  | .many p, k, cur => runMany (run size p) k size cur
  | .part label p, k, cur =>
    run size p (fun next =>
      k { next with parts := ⟨label, cur.offset, next.offset⟩ :: next.parts }) cur
  | .wordEdge, k, cur => if cur.atWordEdge then k cur else none
  | .lineStart, k, cur => if cur.atLineStart then k cur else none
  | .textEnd, k, cur => if cur.rest.isEmpty then k cur else none

/-- Several patterns, one after the other. -/
def inOrder : List (Pattern κ) → Pattern κ
  | [] => .nothing
  | [p] => p
  | p :: rest => .seq p (inOrder rest)

def char (c : Char) : Pattern κ := .one (· == c)

def text (s : String) : Pattern κ := inOrder (s.toList.map char)

/-- One of several texts, the earlier ones preferred. -/
def oneOf : List String → Pattern κ
  | [] => .one fun _ => false
  | [s] => text s
  | s :: rest => .either (text s) (oneOf rest)

/-- A pattern or nothing, the pattern preferred. -/
def maybe (p : Pattern κ) : Pattern κ := .either p .nothing

/-- At least one character of a class, as many as possible. -/
def greedy1 (holds : Char → Bool) : Pattern κ := .seq (.one holds) (.greedy holds)

/-- At least one character of a class, as few as possible. -/
def lazy1 (holds : Char → Bool) : Pattern κ := .seq (.one holds) (.lazy holds)

/-- Blanks, or none. -/
def blanks : Pattern κ := .greedy isBlank

/-- At least one blank. -/
def blanks1 : Pattern κ := greedy1 isBlank

def word : Pattern κ := greedy1 isWordChar

end Pattern

end JavaAtlas
