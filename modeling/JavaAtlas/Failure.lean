import JavaAtlas.Disk.Fault
import JavaAtlas.Json.Value
import JavaAtlas.Text.Integer

/-!
# Failures

Everything that can go wrong, by cause, with the message that reports it. A value of the wrong
kind is reported by the name of its kind.
-/

namespace JavaAtlas

/-- A cause of failure. -/
inductive Failure
  /-- A file operation failed. -/
  | disk (fault : DiskFault)
  /-- A path holds a null character. -/
  | nullInPath
  /-- A value is none of the choices of a named enumeration. -/
  | notAChoice (value : Json) (enumeration : String)
  /-- An object lacks a member. -/
  | missingMember (key : String)
  /-- A value of some kind has no such operation. -/
  | noOperation (kind operation : String)
  /-- A value of some kind is not a sequence. -/
  | notASequence (kind : String)
  /-- A value of some kind has no members. -/
  | noMembers (kind : String)
  /-- A value of some kind cannot be taken for a whole number. -/
  | notANumber (kind : String)
  /-- A text is not a whole number. -/
  | notAnInteger (text : String)
  /-- A whole number has too many digits. -/
  | tooManyDigits (count : Nat)
  /-- A whole number has too many digits to be written. -/
  | unwrittenNumber
  /-- An infinite number was to be made whole. -/
  | infiniteNumber
  /-- Something that is no number was to be made whole. -/
  | undefinedNumber
  /-- A value of some kind is not a path. -/
  | notAPath (kind : String)
  /-- A value of some kind cannot follow a path. -/
  | notASegment (kind : String)
  /-- A value of some kind cannot be a key. -/
  | notAKey (kind : String)
  /-- There is no call-graph database yet. -/
  | callGraphMissing (path : Path)
  /-- A line number or a limit does not fit in a database. -/
  | databaseRange
  /-- A file is not a database. -/
  | notADatabase
  /-- A database lacks its table. -/
  | noCallsTable
  /-- A database cannot be read. -/
  | unreadableDatabase
  /-- A database, or a file that it needs, cannot be opened. -/
  | unopenedDatabase
  /-- A database would have to be changed that may only be read. -/
  | readOnlyDatabase
  /-- A database that is to be filled has its table already. -/
  | callsTableExists
  /-- The name of a database asks for something by a name that is not known. -/
  | unknownSetting (setting value : String)
  /-- The name of a database asks for more access than it has given itself. -/
  | accessRefused (value : String)
  /-- A limit is not a whole number. -/
  | databaseMismatch
  /-- A value of some kind cannot be looked up in a database. -/
  | unboundValue (position : Nat) (kind : String)
  /-- A search pattern is too long. -/
  | patternTooComplex
  /-- There is no tool of this name. -/
  | unknownTool (name : String)
  /-- There are no sources to build the index from. -/
  | sourcesMissing (path : Path) (version : String)
  /-- A home directory cannot be determined. -/
  | homeUnknown
  /-- Several versions could be meant. -/
  | severalVersions (versions : List String)
  /-- There is no version to choose. -/
  | noVersions (cache : Path)
  /-- A size that divides is zero. -/
  | zeroSize
  /-- JSON text nests too many lists and objects; the innermost is of the named kind. -/
  | nestedTooDeep (container : String)

/-- The families of failures. Loading an index file passes over some of them. -/
inductive FailureFamily
  /-- The file system. -/
  | system
  /-- A value of the right kind that is not acceptable. -/
  | value
  /-- A missing member. -/
  | member
  /-- A value of the wrong kind. -/
  | kind
  /-- An operation that a value does not have. -/
  | operation
  /-- A number out of range. -/
  | range
  /-- A missing call graph. -/
  | callGraph
  /-- A file that is not a database. -/
  | database
  /-- A statement that a database cannot carry out. -/
  | statement
  /-- A value that a database refuses. -/
  | refusal
  /-- A value that a statement cannot take. -/
  | binding
  /-- A division by zero. -/
  | division
  /-- Values nested too deep. -/
  | nesting
  /-- Anything else found at run time. -/
  | state
  deriving DecidableEq, Repr

namespace Failure

def family : Failure → FailureFamily
  | .disk _ => .system
  | .nullInPath | .notAChoice .. | .notAnInteger _ | .tooManyDigits _ | .undefinedNumber => .value
  | .unwrittenNumber | .unknownTool _ | .severalVersions _ | .noVersions _ => .value
  | .missingMember _ => .member
  | .notASequence _ | .noMembers _ | .notANumber _ | .notAPath _ | .notASegment _ => .kind
  | .notAKey _ => .kind
  | .noOperation .. => .operation
  | .infiniteNumber | .databaseRange => .range
  | .callGraphMissing _ => .callGraph
  | .notADatabase => .database
  | .noCallsTable | .unreadableDatabase | .patternTooComplex => .statement
  | .unopenedDatabase | .readOnlyDatabase | .callsTableExists => .statement
  | .unknownSetting .. | .accessRefused _ => .statement
  | .databaseMismatch => .refusal
  | .unboundValue .. => .binding
  | .zeroSize => .division
  | .nestedTooDeep _ => .nesting
  | .sourcesMissing .. | .homeUnknown => .state

/-- What is said of a value whose members were asked for by name. -/
def noMembersMessage (kind : String) : String :=
  if kind == "list" then "list indices must be integers or slices, not str"
  else if kind == "str" then "string indices must be integers, not 'str'"
  else "'" ++ kind ++ "' object is not subscriptable"

def message : Failure → String
  | .disk fault => fault.message
  | .nullInPath => "embedded null byte"
  | .notAChoice value enumeration => value.inspect ++ " is not a valid " ++ enumeration
  | .missingMember key => Text.quoted key
  | .noOperation kind operation =>
    "'" ++ kind ++ "' object has no attribute '" ++ operation ++ "'"
  | .notASequence kind => "'" ++ kind ++ "' object is not iterable"
  | .noMembers kind => noMembersMessage kind
  | .notANumber kind =>
    "int() argument must be a string, a bytes-like object or a real number, not '" ++ kind ++ "'"
  | .notAnInteger text =>
    "invalid literal for int() with base 10: " ++
      String.ofList ((Text.quoted text).toList.take 200)
  | .tooManyDigits count =>
    "Exceeds the limit (" ++ toString Text.digitLimit ++
      " digits) for integer string conversion: value has " ++ toString count ++
      " digits; use sys.set_int_max_str_digits() to increase the limit"
  | .unwrittenNumber =>
    "Exceeds the limit (" ++ toString Text.digitLimit ++
      " digits) for integer string conversion; use sys.set_int_max_str_digits() to increase the limit"
  | .infiniteNumber => "cannot convert float infinity to integer"
  | .undefinedNumber => "cannot convert float NaN to integer"
  | .notAPath kind => "expected str, bytes or os.PathLike object, not " ++ kind
  | .notASegment kind => "unsupported operand type(s) for /: 'PosixPath' and '" ++ kind ++ "'"
  | .notAKey kind => "unhashable type: '" ++ kind ++ "'"
  | .callGraphMissing path =>
    "Callgraph database not found at " ++ path.text ++ ". Run ingest first."
  | .databaseRange => "Python int too large to convert to SQLite INTEGER"
  | .notADatabase => "file is not a database"
  | .noCallsTable => "no such table: calls"
  | .unreadableDatabase => "disk I/O error"
  | .unopenedDatabase => "unable to open database file"
  | .readOnlyDatabase => "attempt to write a readonly database"
  | .callsTableExists => "table calls already exists"
  | .unknownSetting setting value => "no such " ++ setting ++ ": " ++ value
  | .accessRefused value => "access mode not allowed: " ++ value
  | .databaseMismatch => "datatype mismatch"
  | .unboundValue position kind =>
    "Error binding parameter " ++ toString position ++ ": type '" ++ kind ++ "' is not supported"
  | .patternTooComplex => "LIKE or GLOB pattern too complex"
  | .unknownTool name => "Unknown tool: " ++ name
  | .sourcesMissing path version =>
    "No decompiled sources at " ++ path.text ++ ". Decompile version " ++ version ++ " first."
  | .homeUnknown => "Could not determine home directory."
  | .severalVersions versions =>
    "Multiple cached versions (" ++ ", ".intercalate versions ++ "). Specify one with -v."
  | .noVersions cache => "No cached sources found under " ++ cache.text ++ "."
  | .zeroSize => "integer modulo by zero"
  | .nestedTooDeep container =>
    "maximum recursion depth exceeded while decoding a JSON " ++ container ++
      " from a unicode string"

end Failure

/-- The text that a value is, for an operation that only texts have. -/
def Json.textFor (v : Json) (operation : String) : Except Failure String :=
  match v with
  | .str s => .ok s
  | _ => .error (.noOperation v.kindName operation)

/-- A computation that changes a state and may fail; what was changed before a failure stays. -/
abbrev Action (σ α : Type) := ExceptT Failure (StateM σ) α

namespace Action

variable {σ τ α : Type}

/-- Fail unless a result is there. -/
def ofExcept : Except Failure α → Action σ α
  | .ok a => pure a
  | .error e => throw e

/-- Run a computation on a part of the state. -/
def on (part : σ → τ) (update : σ → τ → σ) (act : Action τ α) : Action σ α :=
  fun s => let (r, t) := act.run (part s); (r, update s t)

/-- The outcome of a computation, a failure being an outcome like any other. -/
def outcome (act : Action σ α) : Action σ (Except Failure α) :=
  fun s => let (r, t) := act.run s; (.ok r, t)

end Action

end JavaAtlas
