import Mathlib.Data.List.Infix
import JavaAtlas.Proofs.Java.Masking
import JavaAtlas.Proofs.Text.Lines

/-!
# Masking piece by piece

A source text whose comments and literals are closed consists of pieces: characters of code,
comments and literals. Masking keeps the code and blanks every other piece in its place: byte for
byte of UTF-8, with the line feeds left where they are. In what is left nothing begins a comment or
a literal, so that masking it again changes nothing.
-/

namespace JavaAtlas

namespace Java

/-! ### Pieces of a source text -/

/-- The kinds of literal that are masked. -/
inductive Literal
  | string
  | character
  | textBlock
  deriving DecidableEq, Repr

namespace Literal

/-- The mark that opens a literal and closes it. -/
def mark : Literal → List Char
  | .string => ['"']
  | .character => ['\'']
  | .textBlock => ['"', '"', '"']

def region : Literal → Region
  | .string => .string
  | .character => .character
  | .textBlock => .textBlock

end Literal

/-- Whether a text can stand between two marks: a backslash takes the character behind it along,
and at no other place the mark is met. -/
def isInside (mark : List Char) : List Char → Bool
  | [] => true
  | '\\' :: _ :: s => isInside mark s
  | c :: s => c != '\\' && !mark.isPrefixOf (c :: (s ++ mark)) && isInside mark s

/-- What begins a comment or a literal. -/
def openers : List (List Char) := [['/', '/'], ['/', '*'], ['"'], ['\'']]

/-- A piece of a source text: a character of code, a comment or a literal. -/
inductive Piece
  | code (c : Char)
  | lineComment (body : List Char)
  | blockComment (body : List Char)
  | literal (kind : Literal) (body : List Char)
  deriving DecidableEq, Repr

namespace Piece

def text : Piece → List Char
  | .code c => [c]
  | .lineComment body => '/' :: '/' :: body
  | .blockComment body => '/' :: '*' :: (body ++ ['*', '/'])
  | .literal kind body => kind.mark ++ (body ++ kind.mark)

/-- Whether a piece is a character of code. -/
def isCode : Piece → Bool
  | .code _ => true
  | _ => false

/-- Whether a piece is closed and ends where the rest of the text begins. At a character of code
neither a comment nor a literal begins; a line comment goes on to the end of its line; two quotation
marks are a string only if no third one follows. -/
def EndsBefore : Piece → List Char → Prop
  | .code c, rest => ∀ opener ∈ openers, ¬ opener <+: c :: rest
  | .lineComment body, rest => '\n' ∉ body ∧ (rest = [] ∨ rest.head? = some '\n')
  | .blockComment body, _ => ¬ ['*', '/'] <:+: body
  | .literal kind body, rest =>
    isInside kind.mark body = true ∧ (kind = .string → body = [] → rest.head? ≠ some '"')

instance decidableEndsBefore (p : Piece) (rest : List Char) : Decidable (p.EndsBefore rest) :=
  match p with
  | .code c => inferInstanceAs (Decidable (∀ opener ∈ openers, ¬ opener <+: c :: rest))
  | .lineComment body =>
    inferInstanceAs (Decidable ('\n' ∉ body ∧ (rest = [] ∨ rest.head? = some '\n')))
  | .blockComment body => inferInstanceAs (Decidable (¬ ['*', '/'] <:+: body))
  | .literal kind body => inferInstanceAs (Decidable (isInside kind.mark body = true ∧
      (kind = .string → body = [] → rest.head? ≠ some '"')))

def masked (p : Piece) : List Char := if p.isCode then p.text else blankAll p.text

end Piece

def textOf (pieces : List Piece) : List Char := pieces.flatMap Piece.text

def maskedText (pieces : List Piece) : List Char := pieces.flatMap Piece.masked

/-- Whether a text is lexically well-formed, consisting of these pieces. -/
def IsLexed : List Piece → Prop
  | [] => True
  | p :: rest => p.EndsBefore (textOf rest) ∧ IsLexed rest

instance decidableIsLexed : ∀ pieces, Decidable (IsLexed pieces)
  | [] => inferInstanceAs (Decidable True)
  | p :: rest =>
    have := decidableIsLexed rest
    inferInstanceAs (Decidable (p.EndsBefore (textOf rest) ∧ IsLexed rest))

/-! ### Tokens -/

/-- What begins a token that is more than one character or leads to another region. -/
def Region.marks : Region → List (List Char)
  | .code => openers
  | .lineComment => [['\n']]
  | .blockComment => [['*', '/']]
  | .string => [['\\'], ['"']]
  | .character => [['\\'], ['\'']]
  | .textBlock => [['\\'], ['"', '"', '"']]

variable {region next : Region} {c : Char} {done s token rest : List Char} {hidden : Bool}

/-- A character at which no mark of its region begins is a token of its own. -/
lemma nextToken_of_no_mark (h : ∀ mark ∈ region.marks, ¬ mark <+: c :: s) :
    nextToken region (c :: s) = some ([c], region != .code, region, s) := by
  unfold nextToken
  split <;> simp_all [Region.marks, openers]

/-- A quotation mark opens a string if it is not the first of three. -/
lemma nextToken_quotationMark (h : ¬ ['"', '"'] <+: s) :
    nextToken .code ('"' :: s) = some (['"'], true, .string, s) := by
  have hopen : ∀ tail, s ≠ '"' :: '"' :: tail := by
    rintro tail rfl
    exact h ⟨tail, rfl⟩
  simp [nextToken]

/-- A mark of a literal ends it. -/
lemma nextToken_mark_append (kind : Literal) (rest : List Char) :
    nextToken kind.region (kind.mark ++ rest) = some (kind.mark, true, .code, rest) := by
  cases kind <;> simp [nextToken, Literal.mark, Literal.region]

/-! ### The scan of a piece -/

lemma maskFrom_of_none (h : nextToken region s = none) : maskFrom region done s = done.reverse := by
  rw [maskFrom]
  split
  · rfl
  · next hsome =>
    rw [h] at hsome
    cases hsome

lemma maskFrom_of_some (h : nextToken region s = some (token, hidden, next, rest)) :
    maskFrom region done s =
      maskFrom next ((if hidden then blankAll token else token).reverse ++ done) rest := by
  rw [maskFrom]
  split
  · next hnone =>
    rw [h] at hnone
    cases hnone
  · next hsome =>
    rw [h] at hsome
    cases hsome
    rfl

/-- What is masked already stands in front of what the rest comes to. -/
lemma maskFrom_eq (region : Region) (done s : List Char) :
    maskFrom region done s = done.reverse ++ maskFrom region [] s := by
  induction h : s.length using Nat.strong_induction_on generalizing region done s with
  | _ n ih =>
    match htoken : nextToken region s with
    | none => rw [maskFrom_of_none htoken, maskFrom_of_none htoken, List.reverse_nil,
        List.append_nil]
    | some (token, hidden, next, rest) =>
      have hshorter := nextToken_shorter htoken
      rw [maskFrom_of_some htoken, maskFrom_of_some htoken, ih _ (h ▸ hshorter) _ _ _ rfl,
        ih rest.length (h ▸ hshorter) next (_ ++ []) rest rfl]
      simp

/-- A token is masked if it is to be, and then the rest is. -/
lemma maskFrom_token (h : nextToken region s = some (token, hidden, next, rest)) :
    maskFrom region [] s = (if hidden then blankAll token else token) ++ maskFrom next [] rest := by
  rw [maskFrom_of_some h, maskFrom_eq]
  simp

lemma blankAll_append (s t : List Char) : blankAll (s ++ t) = blankAll s ++ blankAll t :=
  List.flatMap_append

lemma blankAll_cons (c : Char) (s : List Char) : blankAll (c :: s) = blankAll [c] ++ blankAll s :=
  blankAll_append [c] s

lemma maskFrom_lineComment {body : List Char} (h : '\n' ∉ body) (rest : List Char) :
    maskFrom .lineComment [] (body ++ rest) = blankAll body ++ maskFrom .lineComment [] rest := by
  induction body with
  | nil => rfl
  | cons c body ih =>
    rw [List.mem_cons, not_or] at h
    have htoken : nextToken .lineComment (c :: (body ++ rest)) =
        some ([c], true, .lineComment, body ++ rest) :=
      nextToken_of_no_mark (by simpa [Region.marks] using h.1)
    rw [List.cons_append, maskFrom_token htoken, ih h.2, if_pos rfl, blankAll_cons c body,
      List.append_assoc]

/-- A line comment ends where its line does. -/
lemma maskFrom_lineComment_end (h : rest = [] ∨ rest.head? = some '\n') :
    maskFrom .lineComment [] rest = maskFrom .code [] rest := by
  rcases h with rfl | h
  · rw [maskFrom_of_none rfl, maskFrom_of_none rfl]
  · obtain ⟨tail, rfl⟩ := List.head?_eq_some_iff.mp h
    have hline : nextToken .lineComment ('\n' :: tail) = some (['\n'], false, .code, tail) := rfl
    have hcode : nextToken .code ('\n' :: tail) = some (['\n'], false, .code, tail) := rfl
    rw [maskFrom_token hline, maskFrom_token hcode]

lemma maskFrom_blockComment {body : List Char} (h : ¬ ['*', '/'] <:+: body) (rest : List Char) :
    maskFrom .blockComment [] (body ++ '*' :: '/' :: rest) =
      blankAll (body ++ ['*', '/']) ++ maskFrom .code [] rest := by
  induction body with
  | nil =>
    have htoken : nextToken .blockComment ('*' :: '/' :: rest) =
        some (['*', '/'], true, .code, rest) := rfl
    exact maskFrom_token htoken
  | cons c body ih =>
    rw [List.infix_cons_iff, not_or] at h
    -- the star and the slash that close the comment stand behind the body
    have hclose : ¬ ['*', '/'] <+: c :: (body ++ '*' :: '/' :: rest) := by
      rw [List.cons_prefix_cons]
      rintro ⟨rfl, hslash⟩
      match body with
      | [] => simp at hslash
      | d :: body =>
        obtain ⟨rfl, -⟩ := List.cons_prefix_cons.mp hslash
        exact h.1 ⟨body, rfl⟩
    have htoken : nextToken .blockComment (c :: (body ++ '*' :: '/' :: rest)) =
        some ([c], true, .blockComment, body ++ '*' :: '/' :: rest) :=
      nextToken_of_no_mark (by simpa only [Region.marks, List.forall_mem_singleton] using hclose)
    rw [List.cons_append, maskFrom_token htoken, ih h.2, if_pos rfl, List.cons_append,
      blankAll_cons c (body ++ _), List.append_assoc]

/-- A literal ends with the first mark that no backslash takes along. -/
lemma maskFrom_literal {kind : Literal} {body : List Char} (h : isInside kind.mark body = true)
    (rest : List Char) :
    maskFrom kind.region [] (body ++ (kind.mark ++ rest)) =
      blankAll (body ++ kind.mark) ++ maskFrom .code [] rest := by
  fun_induction isInside kind.mark body with
  | case1 =>
    exact maskFrom_token (nextToken_mark_append kind rest)
  | case2 c s ih =>
    have htoken : nextToken kind.region ('\\' :: c :: (s ++ (kind.mark ++ rest))) =
        some (['\\', c], true, kind.region, s ++ (kind.mark ++ rest)) := by
      cases kind <;> rfl
    have hblank : blankAll ('\\' :: c :: s ++ kind.mark) =
        blankAll ['\\', c] ++ blankAll (s ++ kind.mark) := blankAll_append ['\\', c] _
    rw [List.cons_append, List.cons_append, maskFrom_token htoken, ih h, if_pos rfl, hblank,
      List.append_assoc]
  | case3 c s _ ih =>
    simp only [Bool.and_eq_true, bne_iff_ne, Bool.not_eq_true'] at h
    have hopen : ¬ kind.mark <+: c :: (s ++ (kind.mark ++ rest)) := by
      intro hmark
      have hinside : c :: (s ++ kind.mark) <+: c :: (s ++ (kind.mark ++ rest)) := ⟨rest, by simp⟩
      have hprefix := List.prefix_of_prefix_length_le hmark hinside (by simp; omega)
      rw [← List.isPrefixOf_iff_prefix, h.1.2] at hprefix
      cases hprefix
    have htoken : nextToken kind.region (c :: (s ++ (kind.mark ++ rest))) =
        some ([c], true, kind.region, s ++ (kind.mark ++ rest)) := by
      have hmarks : kind.region.marks = [['\\'], kind.mark] := by cases kind <;> rfl
      have hhidden : (kind.region != .code) = true := by cases kind <;> rfl
      rw [nextToken_of_no_mark, hhidden]
      rw [hmarks, List.forall_mem_cons, List.forall_mem_singleton]
      exact ⟨by simpa using Ne.symm h.1.1, hopen⟩
    rw [List.cons_append, maskFrom_token htoken, ih h.2, if_pos rfl, List.cons_append,
      blankAll_cons c (s ++ _), List.append_assoc]

/-- A literal begins with its mark. -/
lemma nextToken_mark {kind : Literal} {body : List Char}
    (h : (Piece.literal kind body).EndsBefore rest) :
    nextToken .code (kind.mark ++ (body ++ (kind.mark ++ rest))) =
      some (kind.mark, true, kind.region, body ++ (kind.mark ++ rest)) := by
  cases kind with
  | string =>
    refine nextToken_quotationMark fun hmarks => ?_
    match body with
    | [] =>
      have hthird : ['"'] <+: rest := (List.cons_prefix_cons.mp hmarks).2
      exact h.2 rfl rfl (List.singleton_prefix_iff_head?_eq_some.mp hthird)
    | d :: body =>
      have hd : '"' = d := (List.cons_prefix_cons.mp hmarks).1
      have hinside := h.1
      simp [← hd, isInside, Literal.mark] at hinside
  | character => rfl
  | textBlock => rfl

/-- A piece is masked, and then the rest of the text is. -/
lemma maskFrom_piece {p : Piece} (h : p.EndsBefore rest) :
    maskFrom .code [] (p.text ++ rest) = p.masked ++ maskFrom .code [] rest := by
  match p with
  | .code c =>
    have htoken : nextToken .code (c :: rest) = some ([c], false, .code, rest) :=
      nextToken_of_no_mark h
    exact maskFrom_token htoken
  | .lineComment body =>
    have htoken : nextToken .code ('/' :: '/' :: (body ++ rest)) =
        some (['/', '/'], true, .lineComment, body ++ rest) := rfl
    have hblank : blankAll ('/' :: '/' :: body) = blankAll ['/', '/'] ++ blankAll body :=
      blankAll_append ['/', '/'] body
    rw [Piece.text, List.cons_append, List.cons_append, maskFrom_token htoken,
      maskFrom_lineComment h.1, maskFrom_lineComment_end h.2, if_pos rfl, ← List.append_assoc,
      ← hblank]
    rfl
  | .blockComment body =>
    have htoken : nextToken .code ('/' :: '*' :: (body ++ '*' :: '/' :: rest)) =
        some (['/', '*'], true, .blockComment, body ++ '*' :: '/' :: rest) := rfl
    have hblank : blankAll ('/' :: '*' :: (body ++ ['*', '/'])) =
        blankAll ['/', '*'] ++ blankAll (body ++ ['*', '/']) := blankAll_append ['/', '*'] _
    have htext : (Piece.blockComment body).text ++ rest =
        '/' :: '*' :: (body ++ '*' :: '/' :: rest) := by
      simp [Piece.text]
    rw [htext, maskFrom_token htoken, maskFrom_blockComment h, if_pos rfl, ← List.append_assoc,
      ← hblank]
    rfl
  | .literal kind body =>
    rw [Piece.text, List.append_assoc, List.append_assoc, maskFrom_token (nextToken_mark h),
      maskFrom_literal h.1, if_pos rfl, ← List.append_assoc, ← blankAll_append]
    rfl

/-- A text is masked piece by piece. -/
lemma mask_textOf {pieces : List Piece} (h : IsLexed pieces) :
    mask (textOf pieces) = maskedText pieces := by
  induction pieces with
  | nil => exact maskFrom_of_none rfl
  | cons p rest ih => exact (maskFrom_piece h.1).trans (congrArg (p.masked ++ ·) (ih h.2))

/-! ### Bytes -/

def bytesOf (s : List Char) : List UInt8 := (String.ofList s).toByteArray.data.toList

def lineFeed : UInt8 := 10

/-- A byte when it is blanked: a space, unless it is a line feed. -/
def blankByte (b : UInt8) : UInt8 := if b = lineFeed then lineFeed else 32

lemma bytesOf_cons (c : Char) (s : List Char) :
    bytesOf (c :: s) = String.utf8EncodeChar c ++ bytesOf s := by
  simp [bytesOf, List.utf8Encode]

lemma bytesOf_append (s t : List Char) : bytesOf (s ++ t) = bytesOf s ++ bytesOf t := by
  simp [bytesOf]

lemma blankByte_eq_lineFeed (b : UInt8) : blankByte b = lineFeed ↔ b = lineFeed := by
  rw [blankByte]
  split
  · next h => simp [h]
  · next h => exact iff_of_false (by decide) h

/-- No byte of another character is that of a line feed. -/
lemma ne_lineFeed_of_mem_utf8EncodeChar {c : Char} (hc : c ≠ '\n') {b : UInt8}
    (hb : b ∈ String.utf8EncodeChar c) : b ≠ lineFeed := by
  have hval : c.val.toNat ≠ 10 := fun h => hc (Char.ext (UInt32.toNat_inj.mp h))
  rintro rfl
  have hnat : ∀ n, lineFeed = UInt8.ofNat n → n % 256 = 10 := fun n h =>
    (congrArg UInt8.toNat h).symm
  rw [String.utf8EncodeChar] at hb
  grind

lemma bytesOf_blanksFor (c : Char) :
    bytesOf (blanksFor c) = (String.utf8EncodeChar c).map blankByte := by
  by_cases hc : c = '\n'
  · subst hc
    decide
  · have hspaces : ∀ n, bytesOf (List.replicate n ' ') = List.replicate n 32 := by
      intro n
      induction n with
      | zero => rfl
      | succ n ih => rw [List.replicate_succ, List.replicate_succ, bytesOf_cons, ih]; rfl
    rw [blanksFor, if_neg (by simpa using hc), hspaces]
    refine (List.eq_replicate_iff.mpr ⟨by simp [String.length_utf8EncodeChar], fun b hb => ?_⟩).symm
    obtain ⟨a, ha, rfl⟩ := List.mem_map.mp hb
    rw [blankByte, if_neg (ne_lineFeed_of_mem_utf8EncodeChar hc ha)]

lemma bytesOf_blankAll (s : List Char) : bytesOf (blankAll s) = (bytesOf s).map blankByte := by
  induction s with
  | nil => rfl
  | cons c s ih =>
    have hone : blankAll [c] = blanksFor c := by simp [blankAll]
    rw [blankAll_cons, bytesOf_append, ih, hone, bytesOf_blanksFor, bytesOf_cons, List.map_append]

def Piece.maskedBytes (p : Piece) : List UInt8 :=
  if p.isCode then bytesOf p.text else (bytesOf p.text).map blankByte

lemma bytesOf_masked (p : Piece) : bytesOf p.masked = p.maskedBytes := by
  rw [Piece.masked, Piece.maskedBytes, apply_ite bytesOf, bytesOf_blankAll]

lemma bytesOf_maskedText (pieces : List Piece) :
    bytesOf (maskedText pieces) = pieces.flatMap Piece.maskedBytes := by
  induction pieces with
  | nil => rfl
  | cons p rest ih =>
    rw [maskedText, List.flatMap_cons, bytesOf_append, bytesOf_masked, List.flatMap_cons]
    exact congrArg (p.maskedBytes ++ ·) ih

/-- The line feeds stay where they are. -/
lemma lineFeeds_maskedText (pieces : List Piece) :
    (bytesOf (maskedText pieces)).map (· == lineFeed) =
      (bytesOf (textOf pieces)).map (· == lineFeed) := by
  rw [bytesOf_maskedText]
  induction pieces with
  | nil => rfl
  | cons p rest ih =>
    have hpiece : p.maskedBytes.map (· == lineFeed) = (bytesOf p.text).map (· == lineFeed) := by
      rw [Piece.maskedBytes]
      split
      · rfl
      · rw [List.map_map]
        exact List.map_congr_left fun b _ => by simp [blankByte_eq_lineFeed]
    rw [List.flatMap_cons, List.map_append, hpiece, ih, ← List.map_append, ← bytesOf_append]
    rfl

/-- As many lines stand in front of what is left of a piece as in front of the piece. -/
lemma count_maskedText (pieces : List Piece) :
    (maskedText pieces).count '\n' = (textOf pieces).count '\n' := by
  induction pieces with
  | nil => rfl
  | cons p rest ih =>
    have hpiece : p.masked.count '\n' = p.text.count '\n' := by
      rw [Piece.masked]
      split
      · rfl
      · exact count_blankAll p.text
    rw [maskedText, textOf, List.flatMap_cons, List.flatMap_cons, List.count_append,
      List.count_append, hpiece]
    exact congrArg (p.text.count '\n' + ·) ih

/-! ### Masking again -/

lemma textOf_code (s : List Char) : textOf (s.map .code) = s := by
  induction s with
  | nil => rfl
  | cons c s ih => exact congrArg (c :: ·) ih

lemma maskedText_code (s : List Char) : maskedText (s.map .code) = s := by
  induction s with
  | nil => rfl
  | cons c s ih => exact congrArg (c :: ·) ih

/-- What is left of a text begins as the text does or with a space. -/
lemma head?_maskedText (pieces : List Piece) :
    (maskedText pieces).head? = (textOf pieces).head? ∨ (maskedText pieces).head? = some ' ' := by
  match pieces with
  | [] => exact .inl rfl
  | .code c :: rest => exact .inl rfl
  | .lineComment body :: rest => exact .inr rfl
  | .blockComment body :: rest => exact .inr rfl
  | .literal kind body :: rest => cases kind <;> exact .inr rfl

/-- Whether a character is code shows in the one behind it. -/
lemma endsBefore_code_iff : (Piece.code c).EndsBefore rest ↔
    c ≠ '"' ∧ c ≠ '\'' ∧ (c = '/' → rest.head? ≠ some '/' ∧ rest.head? ≠ some '*') := by
  simp only [Piece.EndsBefore, openers, List.mem_cons, List.not_mem_nil, or_false,
    forall_eq_or_imp, forall_eq, List.cons_prefix_cons, List.singleton_prefix_iff_head?_eq_some,
    List.nil_prefix, and_true]
  grind

/-- Blanks are code in front of code. -/
lemma isLexed_blankAll (token : List Char) {s : List Char} (h : IsLexed (s.map .code)) :
    IsLexed ((blankAll token ++ s).map .code) := by
  have hblank : ∀ c ∈ blankAll token, c = ' ' ∨ c = '\n' := by
    intro c hc
    obtain ⟨d, -, hd⟩ := List.mem_flatMap.mp hc
    rw [blanksFor] at hd
    split at hd
    · exact .inr (List.mem_singleton.mp hd)
    · exact .inl (List.eq_of_mem_replicate hd)
  generalize blankAll token = blanks at hblank
  induction blanks with
  | nil => exact h
  | cons c blanks ih =>
    refine ⟨?_, ih fun d hd => hblank d (List.mem_cons_of_mem c hd)⟩
    rcases hblank c List.mem_cons_self with rfl | rfl <;> simp [Piece.EndsBefore, openers]

/-- What is left of a text is code. -/
lemma isLexed_maskedText {pieces : List Piece} (h : IsLexed pieces) :
    IsLexed ((maskedText pieces).map .code) := by
  induction pieces with
  | nil => trivial
  | cons p rest ih =>
    match p with
    | .code c =>
      refine ⟨?_, ih h.2⟩
      have hends := h.1
      change (Piece.code c).EndsBefore (textOf ((maskedText rest).map .code))
      rw [textOf_code]
      rw [endsBefore_code_iff] at hends ⊢
      rcases head?_maskedText rest with hhead | hhead
      · rwa [hhead]
      · exact ⟨hends.1, hends.2.1, by simp [hhead]⟩
    | .lineComment body => exact isLexed_blankAll _ (ih h.2)
    | .blockComment body => exact isLexed_blankAll _ (ih h.2)
    | .literal kind body => exact isLexed_blankAll _ (ih h.2)

/-- Nothing is left to mask. -/
lemma mask_maskedText {pieces : List Piece} (h : IsLexed pieces) :
    mask (maskedText pieces) = maskedText pieces := by
  calc mask (maskedText pieces)
      = mask (textOf ((maskedText pieces).map .code)) := by rw [textOf_code]
    _ = maskedText ((maskedText pieces).map .code) := mask_textOf (isLexed_maskedText h)
    _ = maskedText pieces := maskedText_code _

/-! ### Masking a text -/

/-- Masking a well-formed text keeps the bytes of its code and turns every other byte but a line
feed into a space. So the text stays as long as it is, its line feeds stay in their places and its
code on its lines, and masking it again changes nothing. -/
theorem mask_keeps_code {pieces : List Piece} (h : IsLexed pieces) :
    bytesOf (mask (textOf pieces)) = pieces.flatMap Piece.maskedBytes ∧
    (bytesOf (mask (textOf pieces))).length = (bytesOf (textOf pieces)).length ∧
    (∀ i : Nat, (bytesOf (mask (textOf pieces)))[i]? = some lineFeed ↔
      (bytesOf (textOf pieces))[i]? = some lineFeed) ∧
    (∀ before c after, pieces = before ++ .code c :: after →
      ∃ front back, mask (textOf pieces) = front ++ c :: back ∧
        (bytesOf front).length = (bytesOf (textOf before)).length ∧
        Text.lineOf (mask (textOf pieces)) front.length =
          Text.lineOf (textOf pieces) (textOf before).length) ∧
    mask (mask (textOf pieces)) = mask (textOf pieces) := by
  have hlength : ∀ ps, (bytesOf (maskedText ps)).length = (bytesOf (textOf ps)).length :=
    fun ps => by simpa using congrArg List.length (lineFeeds_maskedText ps)
  rw [mask_textOf h]
  refine ⟨bytesOf_maskedText pieces, hlength pieces, fun i => ?_, ?_, mask_maskedText h⟩
  · have hat := congrArg (·[i]?) (lineFeeds_maskedText pieces)
    simp only [List.getElem?_map] at hat
    grind
  · rintro before c after rfl
    have hmasked : maskedText (before ++ .code c :: after) =
        maskedText before ++ c :: maskedText after := List.flatMap_append
    have htext : textOf (before ++ .code c :: after) = textOf before ++ c :: textOf after :=
      List.flatMap_append
    refine ⟨maskedText before, maskedText after, hmasked, hlength before, ?_⟩
    rw [Text.lineOf_eq, Text.lineOf_eq, hmasked, htext, List.take_left, List.take_left,
      count_maskedText]

/-- A text whose comments and literals hold the marks of one another. -/
def entangled : List Piece :=
  [.code 'a', .literal .string ['/', '*', '\\', '"', 'é'], .code ';',
    .lineComment ['i', 't', '\'', 's', '"'], .code '\n', .blockComment ['/', '/', '"', '\n', '*'],
    .literal .character ['"'], .literal .textBlock ['\n', '"', '/', '/', '\\', '"'], .code '/',
    .literal .string [], .code 'b']

theorem mask_keeps_code_entangled :
    IsLexed entangled ∧
    textOf entangled = "a\"/*\\\"é\";//it's\"\n".toList ++
      "/*//\"\n**/'\"'\"\"\"\n\"//\\\"\"\"\"/\"\"b".toList ∧
    bytesOf (mask (textOf entangled)) =
      bytesOf "a        ;       \n     \n         \n        /  b".toList ∧
    mask (mask (textOf entangled)) = mask (textOf entangled) := by
  have hlexed : IsLexed entangled := by decide
  obtain ⟨hbytes, -, -, -, hagain⟩ := mask_keeps_code hlexed
  exact ⟨hlexed, by decide, hbytes.trans (by decide), hagain⟩

end Java

end JavaAtlas
