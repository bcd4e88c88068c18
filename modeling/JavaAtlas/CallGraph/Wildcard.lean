/-!
# Wildcard patterns

Names in the call graph are searched by a pattern in which `%` stands for any run of characters,
`_` for any one character, and an escape makes the character after it stand for itself. Letters of
ASCII match without regard to case. A text ends at its first null character, and the two
noncharacters at the end of the basic plane are read as the replacement character.
-/

namespace JavaAtlas

namespace CallGraph

/-- A step of a pattern. -/
inductive Wildcard
  | anyRun
  | anyOne
  | literal (c : Char)
  deriving DecidableEq, Repr

def escapeMark : Char := '\\'

/-- Make every character of a text stand for itself in a pattern. -/
def escapeText (s : List Char) : List Char :=
  s.flatMap fun c => if c == '\\' || c == '%' || c == '_' then [escapeMark, c] else [c]

/-- The part of a text that a pattern sees. -/
def visible (s : List Char) : List Char :=
  (s.takeWhile (· != '\x00')).map fun c =>
    if c.toNat == 0xFFFE || c.toNat == 0xFFFF then '\uFFFD' else c

/-- The steps of a pattern; an escape at its end leaves a pattern that nothing matches. -/
def wildcards : List Char → Option (List Wildcard)
  | [] => some []
  | '\\' :: [] => none
  | '\\' :: c :: rest => (wildcards rest).map (.literal c :: ·)
  | '%' :: rest => (wildcards rest).map (.anyRun :: ·)
  | '_' :: rest => (wildcards rest).map (.anyOne :: ·)
  | c :: rest => (wildcards rest).map (.literal c :: ·)

/-- Whether two characters differ at most in the case of an ASCII letter. -/
def sameLetter (a b : Char) : Bool := a.toLower == b.toLower

/-- Whether the steps of a pattern match a whole text. -/
def matchesSteps : List Wildcard → List Char → Bool
  | [], s => s.isEmpty
  | .anyRun :: steps, [] => matchesSteps steps []
  | .anyRun :: steps, c :: rest =>
    matchesSteps steps (c :: rest) || matchesSteps (.anyRun :: steps) rest
  | .anyOne :: steps, _ :: rest => matchesSteps steps rest
  | .literal x :: steps, c :: rest => sameLetter x c && matchesSteps steps rest
  | _ :: _, [] => false
termination_by steps s => steps.length + s.length

/-- Whether a pattern matches a text. -/
def like (pattern text : List Char) : Bool :=
  match wildcards (visible pattern) with
  | some steps => matchesSteps steps (visible text)
  | none => false

/-- The pattern for texts that contain a text. -/
def containing (query : List Char) : List Char := '%' :: (escapeText query ++ ['%'])

end CallGraph

end JavaAtlas
