/-!
# Masking comments and literals

Comments, strings, characters and text blocks can be blanked before a file is scanned, so that
what looks like a declaration inside them is not taken for one. Every byte of UTF-8 in them
becomes a space, except that line feeds stay, so that line numbers hold.
-/

namespace JavaAtlas

namespace Java

/-- What the character being read belongs to. -/
inductive Region
  | code
  | lineComment
  | blockComment
  | string
  | character
  | textBlock
  deriving DecidableEq, Repr

/-- The spaces that stand for a masked character. -/
def blanksFor (c : Char) : List Char :=
  if c == '\n' then ['\n'] else List.replicate c.utf8Size ' '

/-- The masked form of a token. -/
def blankAll (token : List Char) : List Char := token.flatMap blanksFor

/-- The next token of a region: its characters, whether they are masked, the region after it and
the rest. A token is one character unless several belong together. -/
def nextToken : Region → List Char → Option (List Char × Bool × Region × List Char)
  | _, [] => none
  | .code, '/' :: '/' :: rest => some (['/', '/'], true, .lineComment, rest)
  | .code, '/' :: '*' :: rest => some (['/', '*'], true, .blockComment, rest)
  | .code, '"' :: '"' :: '"' :: rest => some (['"', '"', '"'], true, .textBlock, rest)
  | .code, '"' :: rest => some (['"'], true, .string, rest)
  | .code, '\'' :: rest => some (['\''], true, .character, rest)
  | .code, c :: rest => some ([c], false, .code, rest)
  | .lineComment, '\n' :: rest => some (['\n'], false, .code, rest)
  | .lineComment, c :: rest => some ([c], true, .lineComment, rest)
  | .blockComment, '*' :: '/' :: rest => some (['*', '/'], true, .code, rest)
  | .blockComment, c :: rest => some ([c], true, .blockComment, rest)
  | .textBlock, '\\' :: c :: rest => some (['\\', c], true, .textBlock, rest)
  | .textBlock, '"' :: '"' :: '"' :: rest => some (['"', '"', '"'], true, .code, rest)
  | .textBlock, c :: rest => some ([c], true, .textBlock, rest)
  | .string, '\\' :: c :: rest => some (['\\', c], true, .string, rest)
  | .string, '"' :: rest => some (['"'], true, .code, rest)
  | .string, c :: rest => some ([c], true, .string, rest)
  | .character, '\\' :: c :: rest => some (['\\', c], true, .character, rest)
  | .character, '\'' :: rest => some (['\''], true, .code, rest)
  | .character, c :: rest => some ([c], true, .character, rest)

/-- A token takes at least one character. -/
theorem nextToken_shorter {region next : Region} {s token rest : List Char} {masked : Bool}
    (h : nextToken region s = some (token, masked, next, rest)) : rest.length < s.length := by
  unfold nextToken at h
  split at h <;> simp_all <;> grind

/-- Mask the rest of a text; `done` holds what is already masked, last character first. -/
def maskFrom (region : Region) (done s : List Char) : List Char :=
  match h : nextToken region s with
  | none => done.reverse
  | some (token, masked, next, rest) =>
    have : rest.length < s.length := nextToken_shorter h
    maskFrom next ((if masked then blankAll token else token).reverse ++ done) rest
termination_by s.length

def mask (s : List Char) : List Char := maskFrom .code [] s

end Java

end JavaAtlas
