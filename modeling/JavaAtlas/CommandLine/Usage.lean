import JavaAtlas.CommandLine.Shape

/-!
# Usage and help

The usage of a command names its flags and its positional, broken into lines of at most 78
columns. Help adds a line for each, with the explanations in one column.
-/

namespace JavaAtlas

namespace CommandLine

def maxColumns : Nat := 78

def maxHelpColumn : Nat := 24

def indent (n : Nat) : String := String.ofList (List.replicate n ' ')

def Flag.usage (f : Flag) : String :=
  match f.valueName with
  | some value => "[" ++ f.names.headD "" ++ " " ++ value ++ "]"
  | none => "[" ++ f.names.headD "" ++ "]"

def choicesText (choices : List (String × String)) : String :=
  "\x7b" ++ ",".intercalate (choices.map Prod.fst) ++ "\x7d"

def Positional.usage : Positional → String
  | .value name _ => name
  | .command _ choices => choicesText choices ++ " ..."

/-- Put words on lines of at most 78 columns, every line after the first indented. -/
def fillLines (margin : Nat) (line : String) : List String → List String
  | [] => [line]
  | word :: rest =>
    if maxColumns < line.length + 1 + word.length then
      line :: fillLines margin (indent margin ++ word) rest
    else fillLines margin (line ++ " " ++ word) rest

/-- The usage of a command line, with its line end. If it does not fit on one line, the positional
has a line of its own. -/
def Shape.usage (shape : Shape) : String :=
  let start := "usage: " ++ shape.program
  let margin := start.length + 1
  let flags := shape.flags.map Flag.usage
  let positional := (shape.positional.map Positional.usage).toList
  let lines := match fillLines margin start (flags ++ positional) with
    | [line] => [line]
    | _ => fillLines margin start flags ++ positional.map (indent margin ++ ·)
  "\n".intercalate lines ++ "\n"

/-- A line of help: what it is about and the explanation. -/
structure HelpLine where
  margin : Nat
  heading : String
  help : String

def helpColumn (lines : List HelpLine) : Nat :=
  min maxHelpColumn ((lines.map fun l => l.margin + l.heading.length + 2).foldl max 0)

/-- The text of a line of help; a long heading has a line of its own. -/
def HelpLine.text (column : Nat) (l : HelpLine) : String :=
  let front := indent l.margin ++ l.heading
  if l.help == "" then front ++ "\n"
  else if front.length + 2 ≤ column then
    front ++ indent (column - front.length) ++ l.help ++ "\n"
  else front ++ "\n" ++ indent column ++ l.help ++ "\n"

def Flag.helpLine (f : Flag) : HelpLine :=
  let heading := match f.valueName with
    | some value => ", ".intercalate (f.names.map fun name => name ++ " " ++ value)
    | none => ", ".intercalate f.names
  ⟨2, heading, f.help⟩

def Positional.helpLines : Positional → List HelpLine
  | .value name help => [⟨2, name, help⟩]
  | .command _ choices =>
    ⟨2, choicesText choices, ""⟩ :: choices.map fun c => ⟨4, c.1, c.2⟩

def helpSection (title : String) (column : Nat) (lines : List HelpLine) : String :=
  if lines.isEmpty then ""
  else "\n" ++ title ++ ":\n" ++ String.join (lines.map (HelpLine.text column))

def Shape.help (shape : Shape) : String :=
  let positional := (shape.positional.map Positional.helpLines).getD []
  let flags := shape.flags.map Flag.helpLine
  let column := helpColumn (positional ++ flags)
  let description := if shape.description == "" then "" else "\n" ++ shape.description ++ "\n"
  shape.usage ++ description ++ helpSection "positional arguments" column positional ++
    helpSection "options" column flags

end CommandLine

end JavaAtlas
