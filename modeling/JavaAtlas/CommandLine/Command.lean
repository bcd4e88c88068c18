import JavaAtlas.CommandLine.Usage

/-!
# Commands

The four commands with their arguments, and how they are read from a command line.
-/

namespace JavaAtlas

namespace CommandLine

/-- A command with its arguments. -/
inductive Command
  | serve
  | rebuild (version secondaryVersion sourceDir secondaryDir : Option String)
  | ingest (dump : String) (version : Option String)
  | status
  deriving DecidableEq, Repr

def Command.name : Command → String
  | .serve => "serve"
  | .rebuild .. => "rebuild"
  | .ingest .. => "ingest"
  | .status => "status"

/-- What a program writes, and the code it ends with. -/
structure Ending where
  exit : Nat
  stdout : String
  stderr : String
  log : List String
  deriving DecidableEq, Repr

def programName : String := "mcp-mcdev"

def helpFlag : Flag := ⟨["-h", "--help"], "help", none, "show this help message and exit"⟩

def commandChoices : List (String × String) := [
  ("serve", "Run the MCP server on stdio"),
  ("rebuild", "Rebuild the symbol index from cached sources"),
  ("ingest", "Ingest a call dump into the callgraph database"),
  ("status", "Show index and callgraph status")]

def programShape : Shape :=
  { program := programName
    description := "mcdev MCP - symbol index and call graph for decompiled Java sources"
    flags := [helpFlag]
    positional := some (.command "command" commandChoices) }

def commandShape (name : String) : Shape :=
  let program := programName ++ " " ++ name
  match name with
  | "rebuild" =>
    { program := program
      description := ""
      flags := [helpFlag,
        ⟨["-v", "--version"], "version", some "VERSION",
          "Corpus version (auto-detected if not specified)"⟩,
        ⟨["--secondary-version"], "secondary_version", some "SECONDARY_VERSION",
          "Secondary (API) corpus version"⟩,
        ⟨["--source-dir"], "source_dir", some "SOURCE_DIR",
          "Primary source root (overrides the cache layout)"⟩,
        ⟨["--secondary-dir"], "secondary_dir", some "SECONDARY_DIR",
          "Secondary source root (overrides the cache layout)"⟩]
      positional := none }
  | "ingest" =>
    { program := program
      description := ""
      flags := [helpFlag,
        ⟨["-v", "--version"], "version", some "VERSION", "Corpus version the dump belongs to"⟩]
      positional := some (.value "dump" "Path to the TAB-delimited call dump") }
  | _ => { program := program, description := "", flags := [helpFlag], positional := none }

def commandOf (name : String) (r : Reading) : Command :=
  match name with
  | "rebuild" =>
    .rebuild (r.value? "version") (r.value? "secondary_version") (r.value? "source_dir")
      (r.value? "secondary_dir")
  | "ingest" => .ingest ((r.positional.getD []).headD "") (r.value? "version")
  | "serve" => .serve
  | _ => .status

/-- How the program ends when reading its command line stops. -/
def Stop.ending (shape : Shape) : Stop → Ending
  | .help => ⟨0, shape.help, "", []⟩
  | .misuse message =>
    ⟨2, "", shape.usage ++ shape.program ++ ": error: " ++ message ++ "\n", []⟩

/-- Read a command line. Words that no part of it takes are a misuse of the program. -/
def readCommand (args : List String) : Except Ending Command := do
  let outer ← (programShape.read args).mapError (Stop.ending programShape)
  match outer.positional with
  | some (name :: rest) =>
    let shape := commandShape name
    let inner ← (shape.read rest).mapError (Stop.ending shape)
    match outer.extras ++ inner.extras with
    | [] => return commandOf name inner
    | extras =>
      throw ((Stop.misuse ("unrecognized arguments: " ++ " ".intercalate extras)).ending
        programShape)
  | _ => throw ((Stop.misuse "the following arguments are required: command").ending programShape)

end CommandLine

end JavaAtlas
