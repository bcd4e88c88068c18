import JavaAtlas.Pattern.Search

/-!
# Modifiers

The modifiers of a declaration are the words of a fixed vocabulary that occur in front of it, in
the order of the vocabulary.
-/

namespace JavaAtlas

namespace Java

/-- The modifiers that are recorded, in the order in which they are reported. -/
def modifierVocabulary : List String :=
  ["public", "protected", "private", "static", "final", "abstract", "synchronized", "volatile",
    "transient", "native"]

/-- A word standing on its own. -/
def wholeWord (word : String) : Pattern Empty :=
  .seq .wordEdge (.seq (.text word) .wordEdge)

def modifiersIn (text : List Char) : List String :=
  modifierVocabulary.filter fun word => (wholeWord word).occursIn text

end Java

end JavaAtlas
