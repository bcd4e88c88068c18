/-!
# Lines of a text

Lines end at line feeds and are counted from 1. An offset lies on the line numbered one more
than the line feeds before it.
-/

namespace JavaAtlas

namespace Text

/-- The lines of a text, without their ends; a final line feed gives an empty last line. -/
def lines (s : List Char) : List (List Char) := s.splitOn '\n'

/-- The number of the line reached after so many characters, when the first one lies on `line`. -/
def lineAfter (line : Nat) : Nat → List Char → Nat
  | 0, _ => line
  | _ + 1, [] => line
  | n + 1, c :: rest => lineAfter (if c == '\n' then line + 1 else line) n rest

/-- The number of the line on which an offset lies. -/
def lineOf (s : List Char) (offset : Nat) : Nat := lineAfter 1 offset s

/-- Every line feed passed leads to the next line. -/
theorem lineAfter_eq (line n : Nat) (s : List Char) :
    lineAfter line n s = line + (s.take n).count '\n' := by
  induction s generalizing line n with
  | nil => cases n <;> simp [lineAfter]
  | cons c rest ih => cases n with
    | zero => simp [lineAfter]
    | succ n =>
      by_cases h : c = '\n'
      · simp [lineAfter, ih, h]
        omega
      · simp [lineAfter, ih, h]

/-- A line is numbered by the line feeds before it. -/
theorem lineOf_eq (s : List Char) (offset : Nat) :
    lineOf s offset = 1 + (s.take offset).count '\n' := lineAfter_eq 1 offset s

/-- A text from its line on that so many lines stand before. -/
def dropLines : Nat → List Char → List Char
  | 0, s => s
  | _ + 1, [] => []
  | n + 1, c :: rest => if c == '\n' then dropLines n rest else dropLines (n + 1) rest

/-- The text of a numbered line, empty outside the text. -/
def lineText (s : List Char) (line : Nat) : List Char :=
  if line = 0 then [] else (dropLines (line - 1) s).takeWhile (· != '\n')

def slice (s : List Char) (start stop : Nat) : List Char := (s.drop start).take (stop - start)

def joinLines (ls : List (List Char)) : List Char := ['\n'].intercalate ls

end Text

end JavaAtlas
