import Rewind.Text.Lines
import Rewind.Text.Quoted
import Rewind.Text.Utf8

/-!
# Files

`Files` says what reading the file at a path gives: its bytes or a fault.  It also says how deep
lists and maps may be inside of each other where they are read, which no format limits but the room
for the reader does.  `FileTree` is a tree of files that is known as a whole; a path may go up again
with two dots, and above the tree there are directories of which nothing else is known.
-/

namespace Rewind

/-- Why a file cannot be read. -/
inductive FileFault where
  | missing
  | isDirectory
  /-- A part of the path that is not the last is no directory. -/
  | notDirectory
  /-- The path, or a name in it, has more bytes than one can have. -/
  | nameTooLong
  /-- The path holds the character that ends a path. -/
  | endsEarly
  deriving DecidableEq, Repr

/-- The wording of a fault at a path. -/
def FileFault.message (path : String) : FileFault → String
  | missing => "[Errno 2] No such file or directory: " ++ quoted path
  | isDirectory => "[Errno 21] Is a directory: " ++ quoted path
  | notDirectory => "[Errno 20] Not a directory: " ++ quoted path
  | nameTooLong => "[Errno 36] File name too long: " ++ quoted path
  | endsEarly => "embedded null byte"

/-- The files, and the room for reading them. -/
structure Files where
  /-- What reading the file at a path gives. -/
  read : String → Except FileFault (List UInt8)
  /-- How many lists and objects of JSON may be inside of each other. -/
  jsonDepth : Nat
  /-- How many lists and maps of YAML may be inside of each other. -/
  yamlDepth : Nat

instance : CoeFun Files fun _ => String → Except FileFault (List UInt8) := ⟨Files.read⟩

/-- The text of bytes in UTF-8, with line feeds for breaks of lines of all kinds. -/
def textOfBytes? (bytes : List UInt8) : Option String :=
  (decodeUtf8? bytes).map fun cs => String.ofList (unixLines cs)

/-! ## Trees of files -/

/-- Files by the parts of their paths.  The directories are those in which files are. -/
structure FileTree where
  files : List (List String × List UInt8)

/-- A place that a path leads to. -/
inductive FilePlace where
  /-- A place in the tree, by the parts of the way down to it. -/
  | inside (parts : List String)
  /-- A directory above the tree, of which it is only known that it is one. -/
  | above
  deriving DecidableEq, Repr

namespace FileTree

/-- The most bytes of a name. -/
def maxNameSize : Nat := 255

/-- The most bytes of a path. -/
def maxPathSize : Nat := 4095

/-- The bytes of a file. -/
def file? (t : FileTree) (parts : List String) : Option (List UInt8) := t.files.lookup parts

/-- Whether a place is a directory; the top of the tree always is one. -/
def isDirectory (t : FileTree) (parts : List String) : Bool :=
  parts.isEmpty || t.files.any fun f => parts.isPrefixOf f.1 && parts.length < f.1.length

/-- The bytes at a place. -/
def readPlace (t : FileTree) : FilePlace → Except FileFault (List UInt8)
  | .above => .error .isDirectory
  | .inside parts =>
    match t.file? parts with
    | some bytes => .ok bytes
    | none => .error (if t.isDirectory parts then .isDirectory else .missing)

/-- Whether a place can be gone on from. -/
def checkDirectory (t : FileTree) (place : FilePlace) : Except FileFault Unit :=
  match t.readPlace place with
  | .ok _ => .error .notDirectory
  | .error .isDirectory => .ok ()
  | .error e => .error e

/-- The place that a part of a path leads to from another one. -/
def enter (t : FileTree) (place : FilePlace) (part : String) : Except FileFault FilePlace := do
  t.checkDirectory place
  if part = "" ∨ part = "." then return place
  if part = ".." then
    return match place with
      | .above | .inside [] => .above
      | .inside parts => .inside parts.dropLast
  if maxNameSize < part.utf8ByteSize then throw .nameTooLong
  match place with
  | .above => throw .missing
  | .inside parts => return .inside (parts ++ [part])

/-- The bytes of the file that a path leads to. -/
def read (t : FileTree) (path : String) : Except FileFault (List UInt8) :=
  if path.contains '\x00' then .error .endsEarly
  else if path = "" then .error .missing
  else if maxPathSize < path.utf8ByteSize then .error .nameTooLong
  else
    ((path.splitOn "/").foldlM t.enter (if path.startsWith "/" then .above else .inside [])).bind
      t.readPlace

end FileTree

end Rewind
