import JavaAtlas.Pattern.Basic
import JavaAtlas.Text.Lines

/-!
# Searching text for a pattern

The first match is the one that begins furthest to the left. All matches are found from left to
right, each search beginning where the match before it ended, so that they do not overlap.
-/

namespace JavaAtlas

/-- A match of a pattern in a text, with its marked parts; `here` is the text from the start of the
match on. -/
structure Match (κ : Type) where
  start : Nat
  stop : Nat
  parts : List (Part κ)
  here : List Char

namespace Match

/-- The line of an offset that does not lie before the match, which begins on `line`. -/
def lineAt {κ : Type} (m : Match κ) (line offset : Nat) : Nat :=
  Text.lineAfter line (offset - m.start) m.here

variable {κ : Type} [BEq κ]

def part? (m : Match κ) (label : κ) : Option (Part κ) := m.parts.find? (·.label == label)

/-- The text of a marked part, empty if the part is not in the match. -/
def text (m : Match κ) (label : κ) : List Char :=
  ((m.part? label).map fun p => Text.slice m.here (p.start - m.start) (p.stop - m.start)).getD []

end Match

namespace Pattern

variable {κ : Type}

/-- Match a pattern exactly here; the answer is where the match ends. -/
def matchHere? (p : Pattern κ) (size : Nat) (cur : Cursor κ) : Option (Cursor κ) :=
  p.run size some { cur with parts := [] }

/-- The first match that begins here or further on, and where it ends. -/
def findFrom? (p : Pattern κ) (size : Nat) (cur : Cursor κ) :
    List Char → Option (Match κ × Cursor κ)
  | [] => (p.matchHere? size cur).map fun stop => (⟨cur.offset, stop.offset, stop.parts, []⟩, stop)
  | c :: rest => match p.matchHere? size cur with
    | some stop => some (⟨cur.offset, stop.offset, stop.parts, c :: rest⟩, stop)
    | none => findFrom? p size (cur.advance c rest) rest

def find? (p : Pattern κ) (s : List Char) : Option (Match κ) :=
  (p.findFrom? s.length (.ofText s) s).map Prod.fst

/-- All matches from here on; `count` bounds their number. A match that is empty is followed by a
search one character further on. -/
def findAllFrom (p : Pattern κ) (size : Nat) : Nat → Cursor κ → List (Match κ)
  | 0, _ => []
  | count + 1, cur => match p.findFrom? size cur cur.rest with
    | none => []
    | some (m, stop) =>
      if m.start < m.stop then m :: findAllFrom p size count stop
      else match stop.rest with
        | [] => [m]
        | c :: rest => m :: findAllFrom p size count (stop.advance c rest)

def findAll (p : Pattern κ) (s : List Char) : List (Match κ) :=
  p.findAllFrom s.length (s.length + 1) (.ofText s)

def occursIn (p : Pattern κ) (s : List Char) : Bool := (p.find? s).isSome

/-- The match of a pattern with a whole text. -/
def matchAll? (p : Pattern κ) (s : List Char) : Option (Match κ) :=
  ((Pattern.seq p .textEnd).matchHere? s.length (.ofText s)).map fun stop =>
    ⟨0, stop.offset, stop.parts, s⟩

end Pattern

end JavaAtlas
