/-!
# White space

The white space of text is that of the Unicode property, together with the four separators
U+001C to U+001F. Stripping, splitting into words and the blank class of patterns all use it.
-/

namespace JavaAtlas

/-- White space: tab to carriage return, the separators U+001C to U+001F, space, next line,
no-break space and the wider Unicode spaces. -/
def isBlank (c : Char) : Bool :=
  let n := c.toNat
  (9 ≤ n && n ≤ 13) || (28 ≤ n && n ≤ 32) || n == 0x85 || n == 0xA0 || n == 0x1680 ||
    (0x2000 ≤ n && n ≤ 0x200A) || n == 0x2028 || n == 0x2029 || n == 0x202F || n == 0x205F ||
    n == 0x3000

namespace Text

def stripLeft (s : List Char) : List Char := s.dropWhile isBlank

def stripRight (s : List Char) : List Char := (s.reverse.dropWhile isBlank).reverse

/-- Drop the blanks at both ends. -/
def strip (s : List Char) : List Char := stripRight (stripLeft s)

def allBlank (s : List Char) : Bool := s.all isBlank

/-- The maximal runs of characters that are not blank; `word` holds the run being read. -/
def wordsFrom (word : List Char) : List Char → List (List Char)
  | [] => if word.isEmpty then [] else [word.reverse]
  | c :: rest =>
    if isBlank c then
      if word.isEmpty then wordsFrom [] rest else word.reverse :: wordsFrom [] rest
    else wordsFrom (c :: word) rest

def words (s : List Char) : List (List Char) := wordsFrom [] s

end Text

end JavaAtlas
