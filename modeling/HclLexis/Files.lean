import HclLexis.Text

/-! Files as a program that reads them by path sees them. Reading a path gives a text or a reason
why there is none. A working directory can be held in memory: it has files and empty directories
by name, paths are resolved in it one component at a time, and the directories around it are not
known but for being directories. -/

namespace HclLexis

inductive ReadError where
  | notFound
  | notADirectory
  | isDirectory
  | nameTooLong
  | permissionDenied
  | notUtf8
  | other (message : String)
deriving DecidableEq

def ReadError.message : ReadError → String
  | notFound => "No such file or directory (os error 2)"
  | notADirectory => "Not a directory (os error 20)"
  | isDirectory => "Is a directory (os error 21)"
  | nameTooLong => "File name too long (os error 36)"
  | permissionDenied => "Permission denied (os error 13)"
  | notUtf8 => "stream did not contain valid UTF-8"
  | other message => message

abbrev Files := String → Except ReadError Text

def decodeFile (bytes : ByteArray) : Except ReadError Text :=
  match String.fromUTF8? bytes with
  | some content => .ok content.toList
  | none => .error .notUtf8

inductive Entry where
  | file (bytes : ByteArray)
  | directory

abbrev Directory := List (String × Entry)

namespace Directory

inductive Place where
  | working
  /-- An empty directory in the working directory. -/
  | within
  /-- A directory that holds the working directory, at any remove, or the root. -/
  | around
  | file (bytes : ByteArray)

def nameLimit : Nat := 255

/-- The least number of bytes that are too many for a path. -/
def pathLimit : Nat := 4096

/-- Follows a component of a path. An empty one, as a slash at the end of a path leaves it, stands
for the directory it follows. -/
def follow (directory : Directory) (place : Place) (component : String) :
    Except ReadError Place :=
  match place with
  | .file _ => .error .notADirectory
  | place =>
    if component = "" ∨ component = "." then .ok place
    else if component = ".." then match place with
      | .within => .ok .working
      | _ => .ok .around
    else if nameLimit < component.utf8ByteSize then .error .nameTooLong
    else match place with
      | .working => match directory.lookup component with
        | some (.file bytes) => .ok (.file bytes)
        | some .directory => .ok .within
        | none => .error .notFound
      | _ => .error .notFound

def resolve (directory : Directory) (path : String) : Except ReadError Place :=
  if path = "" then .error .notFound
  else if pathLimit ≤ path.utf8ByteSize then .error .nameTooLong
  else match path.splitOn "/" with
    | "" :: components => components.foldlM directory.follow .around
    | components => components.foldlM directory.follow .working

def read (directory : Directory) : Files := fun path => do
  match ← directory.resolve path with
  | .file bytes => decodeFile bytes
  | _ => .error .isDirectory

end Directory

end HclLexis
