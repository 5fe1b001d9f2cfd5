import MathLint.Path

/-!
# Directories in memory

A `Directory` holds files and directories by their paths. `Directory.read` gives the octets of a
file, or says why there are none, as a file system does.
-/

namespace MathLint

/-- Why a file cannot be read. -/
structure ReadError where
  number : Nat
  reason : String
  deriving DecidableEq, Repr

namespace ReadError

/-- There is no such file. -/
def missing : ReadError := ⟨2, "No such file or directory"⟩

/-- A part of the path is a file and not a directory. -/
def notDirectory : ReadError := ⟨20, "Not a directory"⟩

/-- The path is that of a directory. -/
def isDirectory : ReadError := ⟨21, "Is a directory"⟩

/-- A part of the path is too long. -/
def nameTooLong : ReadError := ⟨36, "File name too long"⟩

/-- An error about a path in words. -/
def message (e : ReadError) (quotedPath : String) : String :=
  s!"[Errno {e.number}] {e.reason}: {quotedPath}"

end ReadError

/-- Files and directories, by the parts of their paths. -/
structure Directory where
  files : List (List String × List UInt8)
  folders : List (List String)

namespace Directory

/-- The directory with files and directories of given names. -/
def ofNames (files : List (String × List UInt8)) (folders : List String) : Directory :=
  { files := files.map fun f => (Path.parts f.1, f.2), folders := folders.map Path.parts }

/-- Whether there is a directory at a place, for itself or around something else. -/
def hasFolder (d : Directory) (place : List String) : Bool :=
  place.isEmpty || d.folders.any (place.isPrefixOf ·) ||
    d.files.any fun f => place.isPrefixOf f.1 && place.length < f.1.length

/-- The longest part of a path, in octets. -/
def maxPart : Nat := 255

/-- The longest path, in octets. -/
def maxPath : Nat := 4095

/-- Walks along the parts of a path from a place; none is outside of the directory. -/
def walk (d : Directory) :
    (place : Option (List String)) → List String → Except ReadError (List UInt8)
  | _, [] => .error .isDirectory
  | none, part :: rest =>
    if maxPart < part.utf8ByteSize then .error .nameTooLong
    else if part == ".." then d.walk none rest
    else .error .missing
  | some place, part :: rest =>
    if maxPart < part.utf8ByteSize then .error .nameTooLong
    else if part == ".." then d.walk (if place.isEmpty then none else some place.dropLast) rest
    else
      match d.files.lookup (place ++ [part]) with
      | some octets => if rest.isEmpty then .ok octets else .error .notDirectory
      | none =>
        if d.hasFolder (place ++ [part]) then d.walk (some (place ++ [part])) rest
        else .error .missing

/-- The octets of the file of a path. -/
def read (d : Directory) (path : String) : Except ReadError (List UInt8) :=
  if maxPath < (Path.normalize path).utf8ByteSize then .error .nameTooLong
  else d.walk (if Path.root path == "" then some [] else none) (Path.parts path)

end Directory

end MathLint
