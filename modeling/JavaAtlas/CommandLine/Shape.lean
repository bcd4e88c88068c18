import JavaAtlas.Text.Digit
import JavaAtlas.Text.Quoted
import JavaAtlas.Ordered

/-!
# Shapes of command lines

A command line is a list of words: flags, each with a value of its own or none, and at most one
positional. A flag can be shortened as long as it is unambiguous, and its value can follow in the
same word. Words after `--` are never flags.
-/

namespace JavaAtlas

namespace CommandLine

/-- A flag with all its names. A flag without a value asks for help. -/
structure Flag where
  names : List String
  key : String
  valueName : Option String
  help : String
  deriving DecidableEq, Repr

/-- What stands on a command line besides flags. -/
inductive Positional
  /-- One value. -/
  | value (name help : String)
  /-- The name of a command, with everything after it. -/
  | command (name : String) (choices : List (String × String))
  deriving DecidableEq, Repr

def Positional.name : Positional → String
  | .value name _ => name
  | .command name _ => name

/-- What a command line can hold. -/
structure Shape where
  program : String
  description : String
  flags : List Flag
  positional : Option Positional
  deriving DecidableEq, Repr

/-- Why reading a command line stops. -/
inductive Stop
  /-- Help is asked for. -/
  | help
  /-- The command line is wrong. -/
  | misuse (message : String)
  deriving DecidableEq, Repr

/-- What a word is. -/
inductive Word
  | plain
  | divider
  /-- A flag by one of its names, with the text that follows it in the same word. -/
  | flag (flag : Flag) (name : String) (attached : Option String)
  | unknown
  deriving DecidableEq, Repr

/-- Whether a word is a flag, known or not. -/
def Word.isFlag : Word → Bool
  | .flag .. => true
  | .unknown => true
  | _ => false

namespace Shape

def flagNames (shape : Shape) : List (String × Flag) :=
  shape.flags.flatMap fun f => f.names.map fun name => (name, f)

def flag? (shape : Shape) (name : String) : Option Flag :=
  (shape.flagNames.find? (·.1 == name)).map Prod.snd

end Shape

/-- Split a word at its first `=`. -/
def splitEquals (s : List Char) : String × Option String :=
  let name := String.ofList (s.takeWhile (· != '='))
  match s.dropWhile (· != '=') with
  | _ :: value => (name, some (String.ofList value))
  | [] => (name, none)

/-- Whether a word looks like a negative number, which is never a flag. -/
def looksNegative (s : List Char) : Bool :=
  let s := if s.getLast? == some '\n' then s.dropLast else s
  match s with
  | '-' :: rest =>
    let fraction := rest.dropWhile isDecimal
    (!rest.isEmpty && fraction.isEmpty) ||
      (fraction.head? == some '.' && fraction.length ≥ 2 && (fraction.drop 1).all isDecimal)
  | _ => false

/-- The flags that a shortened or joined word can mean, with the name that is meant. -/
def candidates (shape : Shape) (s : List Char) : List (Flag × String × Option String) :=
  match s with
  | '-' :: '-' :: _ =>
    let (start, attached) := splitEquals s
    shape.flagNames.filterMap fun (name, f) =>
      if start.toList.isPrefixOf name.toList then some (f, name, attached) else none
  | _ =>
    let short := String.ofList (s.take 2)
    shape.flagNames.filterMap fun (name, f) =>
      if name == short then some (f, name, some (String.ofList (s.drop 2)))
      else if s.isPrefixOf name.toList then some (f, name, none)
      else none

def classify (shape : Shape) (word : String) : Except Stop Word :=
  let s := word.toList
  if s.head? != some '-' then .ok .plain
  else match shape.flag? word with
    | some f => .ok (.flag f word none)
    | none =>
      if s.length == 1 then .ok .plain
      else
        let (name, attached) := splitEquals s
        match attached, shape.flag? name with
        | some attached, some f => .ok (.flag f name (some attached))
        | _, _ => match candidates shape s with
          | [(f, name, attached)] => .ok (.flag f name attached)
          | [] =>
            if looksNegative s || s.contains ' ' then .ok .plain else .ok .unknown
          | several => .error (.misuse ("ambiguous option: " ++ word ++ " could match " ++
              ", ".intercalate (several.map fun c => c.2.1)))

/-- Tell what each word is; after a divider all words are plain. -/
def classifyAll (shape : Shape) : List String → Except Stop (List (Word × String))
  | [] => .ok []
  | word :: rest =>
    if word == "--" then .ok ((.divider, word) :: rest.map fun w => (.plain, w))
    else do
      let kind ← classify shape word
      return (kind, word) :: (← classifyAll shape rest)

/-- What was read from a command line. -/
structure Reading where
  values : List (String × String)
  positional : Option (List String)
  extras : List String
  deriving DecidableEq, Repr

def Flag.misuse (f : Flag) (message : String) : Stop :=
  .misuse ("argument " ++ "/".intercalate f.names ++ ": " ++ message)

def Flag.lacksValue (f : Flag) : Stop := f.misuse "expected one argument"

def Flag.refusesValue (f : Flag) (text : String) : Stop :=
  f.misuse ("ignored explicit argument " ++ Text.quoted text)

def startsPlain : List (Word × String) → Bool
  | (.plain, _) :: _ => true
  | _ => false

/-- How a word ends in which text follows `owner`, a flag without a value: every letter must be a
flag of its own, until one takes the rest of the word, or the next word, as its value. The first
flag of the word asks for help. -/
def clusterStop (shape : Shape) (owner : Flag) (rest : List (Word × String)) : List Char → Stop
  | [] => .help
  | c :: more => match shape.flag? (String.ofList ['-', c]) with
    | none => owner.refusesValue (String.ofList (c :: more))
    | some f =>
      if f.valueName.isSome then
        if more.isEmpty && !startsPlain rest then f.lacksValue else .help
      else clusterStop shape f rest more

/-- The value that a flag is given by text in the same word; a divider is no value. -/
def attachedValue (text : String) : String := if text == "--" then "" else text

def readFlag (shape : Shape) (f : Flag) (name : String) (attached : Option String)
    (rest : List (Word × String)) : Except Stop ((String × String) × List (Word × String)) :=
  match f.valueName, attached with
  | some _, some text => .ok ((f.key, attachedValue text), rest)
  | some _, none => match rest with
    | (.plain, value) :: rest => .ok ((f.key, value), rest)
    | _ => .error f.lacksValue
  | none, none => .error .help
  | none, some text =>
    if text == "" || "--".toList.isPrefixOf name.toList then .error (f.refusesValue text)
    else .error (clusterStop shape f rest text.toList)

/-- The number of words that a positional takes from the front. -/
def positionalWords (p : Positional) (words : List (Word × String)) : Nat :=
  let lead := (words.takeWhile fun w => w.1 == .divider).length
  match words.drop lead with
  | (.plain, _) :: after => match p with
    | .value .. => lead + 1 + (after.takeWhile fun w => w.1 == .divider).length
    | .command .. => words.length
  | _ => 0

/-- The words of a positional; the first divider is not one of them, except before a command. -/
def positionalValue (p : Positional) (words : List String) : List String :=
  match p with
  | .value .. => words.erase "--"
  | .command .. => words

/-- The check of a positional: a command must be one of the choices. -/
def checkPositional (p : Positional) (words : List String) : Except Stop Unit :=
  match p with
  | .value .. => .ok ()
  | .command name choices =>
    let word := words.headD ""
    if (choices.map Prod.fst).contains word then .ok ()
    else .error (.misuse ("argument " ++ name ++ ": invalid choice: " ++ Text.quoted word ++
      " (choose from " ++ ", ".intercalate (choices.map fun c => Text.quoted c.1) ++ ")"))

/-- Take the positional from the front of the words, if it is still open and stands there. -/
def takePositional (shape : Shape) (r : Reading) (words : List (Word × String)) :
    Except Stop (Reading × List (Word × String)) :=
  match shape.positional, r.positional with
  | some p, none => match positionalWords p words with
    | 0 => .ok (r, words)
    | n => do
      let taken := positionalValue p ((words.take n).map Prod.snd)
      checkPositional p taken
      return ({ r with positional := some taken }, words.drop n)
  | _, _ => .ok (r, words)

/-- Read words from left to right; `fuel` bounds the number of steps. -/
def readWords (shape : Shape) : Nat → Reading → List (Word × String) → Except Stop Reading
  | 0, r, _ => .ok r
  | fuel + 1, r, words =>
    if !words.any (·.1.isFlag) then do
      let (r, rest) ← takePositional shape r words
      return { r with extras := r.extras ++ rest.map Prod.snd }
    else match words with
      | [] => .ok r
      | (.unknown, word) :: rest =>
        readWords shape fuel { r with extras := r.extras ++ [word] } rest
      | (.flag f name attached, _) :: rest => do
        let (assigned, rest) ← readFlag shape f name attached rest
        readWords shape fuel { r with values := r.values ++ [assigned] } rest
      | _ => do
        let (r, rest) ← takePositional shape r words
        if rest.length < words.length then readWords shape fuel r rest
        else
          let extra := words.takeWhile fun w => !w.1.isFlag
          readWords shape fuel { r with extras := r.extras ++ extra.map Prod.snd }
            (words.drop extra.length)

/-- Read a command line; a positional must be there. -/
def Shape.read (shape : Shape) (args : List String) : Except Stop Reading := do
  let words ← classifyAll shape args
  let r ← readWords shape (2 * words.length + 1) ⟨[], none, []⟩ words
  match shape.positional, r.positional with
  | some p, none => .error (.misuse ("the following arguments are required: " ++ p.name))
  | _, _ => .ok r

/-- The value that a flag was given last. -/
def Reading.value? (r : Reading) (key : String) : Option String :=
  (r.values.reverse.find? (·.1 == key)).map Prod.snd

end CommandLine

end JavaAtlas
