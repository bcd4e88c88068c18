/-!
# The order of texts

Texts are ordered by their code points, and lists of texts by the first texts in which they differ.
-/

namespace JavaAtlas

namespace Text

/-- Whether a text comes before another one by its code points. -/
def isBefore (s t : String) : Bool := s.toList.lex t.toList fun a b => a.toNat.blt b.toNat

/-- Whether a list of texts comes before another one. -/
def areBefore (xs ys : List String) : Bool := xs.lex ys isBefore

end Text

end JavaAtlas
