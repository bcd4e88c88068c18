import JavaAtlas.Disk.Path
import JavaAtlas.Text.Quoted

/-!
# Faults of the file system

An operation fails for one of five reasons, told with the path it was asked for.
-/

namespace JavaAtlas

/-- Why a file operation fails. -/
inductive DiskReason
  | notFound
  | alreadyExists
  | notDirectory
  | isDirectory
  | nameTooLong
  deriving DecidableEq, Repr

namespace DiskReason

def code : DiskReason → Nat
  | .notFound => 2
  | .alreadyExists => 17
  | .notDirectory => 20
  | .isDirectory => 21
  | .nameTooLong => 36

/-- The system's words for a reason. -/
def words : DiskReason → String
  | .notFound => "No such file or directory"
  | .alreadyExists => "File exists"
  | .notDirectory => "Not a directory"
  | .isDirectory => "Is a directory"
  | .nameTooLong => "File name too long"

end DiskReason

/-- A file operation that failed; `target` is where a file was to be moved to. -/
structure DiskFault where
  reason : DiskReason
  path : Path
  target : Option Path := none
  deriving DecidableEq, Repr

def DiskFault.message (f : DiskFault) : String :=
  let place := Text.quoted f.path.text
  let move := match f.target with
    | some target => " -> " ++ Text.quoted target.text
    | none => ""
  "[Errno " ++ toString f.reason.code ++ "] " ++ f.reason.words ++ ": " ++ place ++ move

end JavaAtlas
