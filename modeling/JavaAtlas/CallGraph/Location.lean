import JavaAtlas.Failure
import JavaAtlas.Json.Reader
import JavaAtlas.Text.Utf8

/-!
# Names of databases

A name that begins with `file:` is a locator: a path, then settings after a question mark, up to a
number sign. A percent sign with two hexadecimal digits stands for a byte; the byte zero ends the
part of the locator it stands in. Any other name is a path.
-/

namespace JavaAtlas

namespace CallGraph

/-- What may be done with the file of a database. -/
inductive Access
  | read
  | write
  | create
  deriving DecidableEq, Repr

/-- Where a database lies. -/
inductive Location
  | memory
  | file (path : Path) (access : Access)
  deriving DecidableEq, Repr

namespace Location

/-- What every locator begins with. -/
def scheme : String := "file:"

/-- The byte that two hexadecimal digits write. -/
def hexByte? (a b : UInt8) : Option UInt8 := do
  let high ← Json.hexValue? (Char.ofNat a.toNat)
  let low ← Json.hexValue? (Char.ofNat b.toNat)
  return UInt8.ofNat (high * 16 + low)

/-- The bytes that a part of a locator stands for. -/
def decodeBytes : List UInt8 → List UInt8
  | [] => []
  | 0x25 :: a :: b :: rest => match hexByte? a b with
    | some 0 => []
    | some byte => byte :: decodeBytes rest
    | none => 0x25 :: decodeBytes (a :: b :: rest)
  | byte :: rest => byte :: decodeBytes rest

/-- The text that a part of a locator stands for. -/
def decode (part : List Char) : String :=
  String.ofList (Text.decodeFrom [] .between (decodeBytes (String.ofList part).toUTF8.toList))

/-- Split at the first place of a character, which is in neither part. -/
def splitFirst (c : Char) (s : List Char) : List Char × List Char :=
  (s.takeWhile (· != c), (s.dropWhile (· != c)).drop 1)

/-- The settings of a locator; one without a name does not count. -/
def settings (query : List Char) : List (String × String) :=
  ((query.splitOn '&').map fun setting =>
    let (name, value) := splitFirst '=' setting
    (decode name, decode value)).filter (·.1 != "")

/-- What the settings of a locator ask for so far. `allowed` is the greatest access they may still
ask for. -/
structure Request where
  inMemory : Bool := false
  access : Access := .create
  allowed : Access := .create
  system : String := "unix"

/-- An access may be asked for if it is not greater than another one. -/
def Access.atMost (a b : Access) : Bool :=
  match a, b with
  | .read, _ => true
  | .write, .read => false
  | .write, _ => true
  | .create, b => b == .create

def Request.withAccess (r : Request) (value : String) (access : Access) :
    Except Failure Request :=
  if Access.atMost access r.allowed then
    .ok { r with inMemory := false, access, allowed := access }
  else .error (.accessRefused value)

def Request.follow (r : Request) (setting : String × String) : Except Failure Request :=
  match setting with
  | ("vfs", value) => .ok { r with system := value }
  | ("cache", value) =>
    if ["shared", "private"].contains value then .ok r
    else .error (.unknownSetting "cache mode" value)
  | ("mode", value) => match value with
    | "ro" => r.withAccess value .read
    | "rw" => r.withAccess value .write
    | "rwc" => r.withAccess value .create
    | "memory" => .ok { r with inMemory := true, allowed := .create }
    | _ => .error (.unknownSetting "access mode" value)
  | _ => .ok r

/-- The systems that keep databases in files. -/
def fileSystems : List String := ["unix", "unix-none", "unix-dotfile", "unix-excl"]

/-- The system that keeps databases in memory. -/
def memorySystem : String := "memdb"

/-- The place of a database with a name, as it is asked for. -/
def Request.location (r : Request) (name : String) : Except Failure Location :=
  if r.system == memorySystem then .ok .memory
  else if !fileSystems.contains r.system then .error (.unknownSetting "vfs" r.system)
  else if r.inMemory || name == "" || name == ":memory:" then .ok .memory
  else .ok (.file (Path.parse name) r.access)

/-- Read a locator without its scheme. -/
def ofLocator (s : List Char) : Except Failure Location := do
  let (name, query) := splitFirst '?' (s.takeWhile (· != '#'))
  let r ← (settings query).foldlM Request.follow {}
  r.location (decode name)

/-- The place that a path names when a database is to be made there. -/
def ofPath (p : Path) : Except Failure Location :=
  let s := p.text.toList
  if scheme.toList.isPrefixOf s then ofLocator (s.drop scheme.length)
  else .ok (.file p .create)

end Location

end CallGraph

end JavaAtlas
