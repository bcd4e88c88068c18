/-!
# Text in bytes

Text files hold UTF-8. Index files must hold nothing else; in source files and dumps every
malformed sequence is read as one replacement character for each maximal part that could still
have become a character. Line ends of all three kinds are read as a line feed.
-/

namespace JavaAtlas

namespace Text

/-- The character read in place of malformed bytes. -/
def replacement : Char := '\uFFFD'

/-- The number of tail bytes after a lead byte, with the range of the first of them. -/
def leadByte (b : Nat) : Option (Nat × Nat × Nat) :=
  if 0xC2 ≤ b && b ≤ 0xDF then some (1, 0x80, 0xBF)
  else if b == 0xE0 then some (2, 0xA0, 0xBF)
  else if b == 0xED then some (2, 0x80, 0x9F)
  else if 0xE1 ≤ b && b ≤ 0xEF then some (2, 0x80, 0xBF)
  else if b == 0xF0 then some (3, 0x90, 0xBF)
  else if b == 0xF4 then some (3, 0x80, 0x8F)
  else if 0xF1 ≤ b && b ≤ 0xF3 then some (3, 0x80, 0xBF)
  else none

def leadPayload (tails b : Nat) : Nat :=
  match tails with
  | 1 => b - 0xC0
  | 2 => b - 0xE0
  | _ => b - 0xF0

/-- What the bytes read so far ask for: nothing, or tail bytes to finish a character. -/
inductive Decoding
  | between
  | within (code tails low high : Nat)

/-- Read a byte that begins a character: the characters it completes and what is asked for next. -/
def beginChar (n : Nat) : List Char × Decoding :=
  if n < 0x80 then ([Char.ofNat n], .between)
  else match leadByte n with
    | some (tails, low, high) => ([], .within (leadPayload tails n) tails low high)
    | none => ([replacement], .between)

/-- Read one byte. A byte that cannot go on with the character before it begins another. -/
def Decoding.step (b : UInt8) : Decoding → List Char × Decoding
  | .between => beginChar b.toNat
  | .within code tails low high =>
    let n := b.toNat
    if low ≤ n && n ≤ high then
      let code := code * 64 + (n - 0x80)
      if tails ≤ 1 then ([Char.ofNat code], .between)
      else ([], .within code (tails - 1) 0x80 0xBF)
    else
      let (out, next) := beginChar n
      (replacement :: out, next)

/-- Decode bytes, with a replacement character for each malformed part; `done` holds the
characters read so far, last first. -/
def decodeFrom (done : List Char) : Decoding → List UInt8 → List Char
  | .between, [] => done.reverse
  | .within .., [] => (replacement :: done).reverse
  | state, b :: rest =>
    let (out, next) := state.step b
    decodeFrom (out.reverse ++ done) next rest

/-- Read every line end as a line feed; `done` holds the characters read so far, last first. -/
def unifyFrom (done : List Char) : List Char → List Char
  | [] => done.reverse
  | '\r' :: '\n' :: rest => unifyFrom ('\n' :: done) rest
  | '\r' :: rest => unifyFrom ('\n' :: done) rest
  | c :: rest => unifyFrom (c :: done) rest

/-- Read a carriage return, alone or before a line feed, as a line feed. -/
def unifyLineEnds (s : List Char) : List Char := unifyFrom [] s

/-- The text of a source file or dump; it exists for all bytes. -/
def decodeLossy (bytes : ByteArray) : List Char :=
  unifyLineEnds <|
    match String.fromUTF8? bytes with
    | some s => s.toList
    | none => decodeFrom [] .between bytes.toList

/-- The text of an index file; it exists only for well-formed UTF-8. -/
def decodeStrict? (bytes : ByteArray) : Option (List Char) :=
  (String.fromUTF8? bytes).map fun s => unifyLineEnds s.toList

end Text

end JavaAtlas
