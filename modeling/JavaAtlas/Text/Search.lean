/-!
# Searching plain text
-/

namespace JavaAtlas

namespace Text

def occursIn (needle : List Char) : List Char → Bool
  | [] => needle.isEmpty
  | c :: rest => needle.isPrefixOf (c :: rest) || occursIn needle rest

/-- Split a text at the last occurrence of a character; without one, all of it comes after. -/
def splitLast (mark : Char) (s : List Char) : List Char × List Char :=
  if s.contains mark then
    let after := (s.reverse.takeWhile (· != mark)).reverse
    (s.take (s.length - after.length - 1), after)
  else ([], s)

end Text

end JavaAtlas
