import JavaAtlas.Json.Value
import JavaAtlas.Text.Integer

/-!
# Reading JSON

The reader accepts JSON text and the three names for NaN and the infinities. A name that occurs
twice in an object keeps its first place and its last value. A whole number of too many digits is
a fault of its own, found before any fault that stands further on, and so is a list or an object
inside more of them than there is room for.
-/

namespace JavaAtlas

namespace Json

/-- Why a text is not read as JSON. -/
inductive ReadFault
  | malformed
  | tooManyDigits (count : Nat)
  | nestedTooDeep (container : String)
  deriving DecidableEq, Repr

def isGap (c : Char) : Bool := c == ' ' || c == '\t' || c == '\n' || c == '\r'

def skipGap (s : List Char) : List Char := s.dropWhile isGap

def hexValue? (c : Char) : Option Nat :=
  if c.isDigit then some (c.toNat - 48)
  else if 'a' ≤ c && c ≤ 'f' then some (c.toNat - 87)
  else if 'A' ≤ c && c ≤ 'F' then some (c.toNat - 55)
  else none

def hexUnit? (a b c d : Char) : Option Nat := do
  let a ← hexValue? a
  let b ← hexValue? b
  let c ← hexValue? c
  let d ← hexValue? d
  return ((a * 16 + b) * 16 + c) * 16 + d

/-- The character that a one-letter escape stands for. -/
def escapeValue? (c : Char) : Option Char :=
  if c == '"' || c == '\\' || c == '/' then some c
  else if c == 'b' then some '\x08'
  else if c == 'f' then some '\x0C'
  else if c == 'n' then some '\n'
  else if c == 'r' then some '\r'
  else if c == 't' then some '\t'
  else none

/-- The characters read so far, last first, once a waiting first half of a pair is given up. -/
def settle (done : List Char) (half : Option Nat) : List Char :=
  if half.isSome then '\uFFFD' :: done else done

/-- Read the rest of a string. `done` holds what is read, last first, and `half` the first unit of
a pair that may still be completed. -/
def readText (done : List Char) (half : Option Nat) : List Char → Option (String × List Char)
  | [] => none
  | '"' :: rest => some (String.ofList (settle done half).reverse, rest)
  | '\\' :: 'u' :: a :: b :: c :: d :: rest =>
    match hexUnit? a b c d with
    | none => none
    | some n =>
      if 0xDC00 ≤ n && n < 0xE000 then
        match half with
        | some high =>
          let code := 0x10000 + (high - 0xD800) * 0x400 + (n - 0xDC00)
          readText (Char.ofNat code :: done) none rest
        | none => readText ('\uFFFD' :: done) none rest
      else if 0xD800 ≤ n && n < 0xDC00 then readText (settle done half) (some n) rest
      else readText (Char.ofNat n :: settle done half) none rest
  | '\\' :: e :: rest =>
    match escapeValue? e with
    | none => none
    | some c => readText (c :: settle done half) none rest
  | c :: rest => if c.toNat < 0x20 then none else readText (c :: settle done half) none rest

def takeDigits (s : List Char) : List Char := s.takeWhile Char.isDigit

/-- The whole part of a number: a zero, or digits that start with another. -/
def wholePart (s : List Char) : List Char :=
  match s with
  | '0' :: _ => ['0']
  | _ => takeDigits s

/-- The digits of a fraction, if a point and a digit follow. -/
def fractionPart (s : List Char) : List Char :=
  match s with
  | '.' :: rest => takeDigits rest
  | _ => []

/-- An exponent with the number of characters it takes, if a mark and a digit follow. -/
def exponentPart (s : List Char) : Option (Int × Nat) :=
  match s with
  | [] => none
  | mark :: rest =>
    if mark != 'e' && mark != 'E' then none
    else
      let (negative, skip, rest) := match rest with
        | '-' :: rest => (true, 2, rest)
        | '+' :: rest => (false, 2, rest)
        | rest => (false, 1, rest)
      let digits := takeDigits rest
      if digits.isEmpty then none
      else
        let n : Int := Text.digitsValue digits
        some (if negative then -n else n, skip + digits.length)

/-- Read a number whose sign is already read. -/
def readNumber (negative : Bool) (s : List Char) : Except ReadFault (Json × List Char) :=
  let whole := wholePart s
  if whole.isEmpty then .error .malformed
  else
    let s := s.drop whole.length
    let fraction := fractionPart s
    let s := if fraction.isEmpty then s else s.drop (1 + fraction.length)
    match exponentPart s with
    | some (e, taken) =>
      let digits := Text.digitsValue (whole ++ fraction)
      .ok (.float (Binary64.ofDecimal negative digits (e - fraction.length)), s.drop taken)
    | none =>
      if !fraction.isEmpty then
        let digits := Text.digitsValue (whole ++ fraction)
        .ok (.float (Binary64.ofDecimal negative digits (-fraction.length)), s)
      else match Text.readDigits whole with
        | .ok n => .ok (.int (if negative then -(n : Int) else n), s)
        | .error _ => .error (.tooManyDigits whole.length)

/-- Drop an expected word from the front. -/
def dropWord (word s : List Char) : Option (List Char) :=
  if word.isPrefixOf s then some (s.drop word.length) else none

/-- The values written as one word. -/
def words : List (List Char × Json) :=
  [("null".toList, .null), ("true".toList, .bool true), ("false".toList, .bool false),
    ("NaN".toList, .float .nan), ("Infinity".toList, .float (.infinite false)),
    ("-Infinity".toList, .float (.infinite true))]

def readScalar (s : List Char) : Except ReadFault (Json × List Char) :=
  match words.findSome? fun w => (dropWord w.1 s).map fun rest => (w.2, rest) with
  | some found => .ok found
  | none => match s with
    | '-' :: rest => readNumber true rest
    | _ => readNumber false s

mutual

/-- Read a value; `fuel` bounds the number of values still to be read, and `room` says how many
lists and objects may still be opened inside each other. -/
def readValue : Nat → Nat → List Char → Except ReadFault (Json × List Char)
  | 0, _, _ => .error .malformed
  | fuel + 1, room, s =>
    match s with
    | '"' :: rest => match readText [] none rest with
      | some (text, rest) => .ok (.str text, rest)
      | none => .error .malformed
    | '[' :: rest => match room, skipGap rest with
      | 0, _ => .error (.nestedTooDeep "array")
      | _ + 1, ']' :: rest => .ok (.arr [], rest)
      | room + 1, rest => do
        let (items, rest) ← readItems fuel room rest
        return (.arr items, rest)
    | '\x7b' :: rest => match room, skipGap rest with
      | 0, _ => .error (.nestedTooDeep "object")
      | _ + 1, '\x7d' :: rest => .ok (.obj [], rest)
      | room + 1, rest => do
        let (members, rest) ← readMembers fuel room rest
        return (.obj (Ordered.ofList members), rest)
    | _ => readScalar s

def readItems : Nat → Nat → List Char → Except ReadFault (List Json × List Char)
  | 0, _, _ => .error .malformed
  | fuel + 1, room, s => do
    let (v, rest) ← readValue fuel room s
    match skipGap rest with
    | ']' :: rest => return ([v], rest)
    | ',' :: rest =>
      let (items, rest) ← readItems fuel room (skipGap rest)
      return (v :: items, rest)
    | _ => .error .malformed

def readMembers : Nat → Nat → List Char → Except ReadFault (List (String × Json) × List Char)
  | 0, _, _ => .error .malformed
  | fuel + 1, room, s =>
    match s with
    | '"' :: rest => match readText [] none rest with
      | none => .error .malformed
      | some (key, rest) => match skipGap rest with
        | ':' :: rest => do
          let (v, rest) ← readValue fuel room (skipGap rest)
          match skipGap rest with
          | '\x7d' :: rest => return ([(key, v)], rest)
          | ',' :: rest =>
            let (members, rest) ← readMembers fuel room (skipGap rest)
            return ((key, v) :: members, rest)
          | _ => .error .malformed
        | _ => .error .malformed
    | _ => .error .malformed

end

/-- Read a text that holds one value and nothing else but blanks, with room for so many lists and
objects inside each other. -/
def readWithin (room : Nat) (s : List Char) : Except ReadFault Json := do
  let (v, rest) ← readValue (s.length + 1) room (skipGap s)
  if (skipGap rest).isEmpty then .ok v else .error .malformed

/-- Read a text that holds one value. It cannot open more lists and objects than it has
characters. -/
def read (s : List Char) : Except ReadFault Json := readWithin s.length s

end Json

end JavaAtlas
