/-!
# Paths

A path is a way down a tree of directories.  Parts that lead nowhere, empty ones and single dots,
are dropped when a path is read, so different spellings of a way are one path.
-/

namespace Rewind

/-- A way down a tree of directories. -/
structure Path where
  /-- The slashes in front: none, one or two. -/
  root : String
  parts : List String
  deriving DecidableEq, Repr

namespace Path

/-- The slashes that count in front of a path: more than two are as good as one. -/
def rootOf (cs : List Char) : String :=
  let slashes := cs.takeWhile (· = '/')
  if slashes.isEmpty then "" else if slashes.length = 2 then "//" else "/"

/-- The path that a text spells. -/
def ofText (s : String) : Path where
  root := rootOf s.toList
  parts := (s.splitOn "/").filter fun part => part ≠ "" && part ≠ "."

/-- The spelling of a path; the empty one is a single dot. -/
def text (p : Path) : String :=
  if p.root = "" ∧ p.parts = [] then "." else p.root ++ "/".intercalate p.parts

/-- The last part, empty if there is none. -/
def name (p : Path) : String := p.parts.getLast?.getD ""

/-- The end of a name from its last dot on, unless that dot is the first or the last character. -/
def suffix (p : Path) : String :=
  let reversed := p.name.toList.reverse
  let extension := reversed.takeWhile (· ≠ '.')
  match reversed.drop extension.length with
  | _ :: _ :: _ => if extension.isEmpty then "" else String.ofList ('.' :: extension.reverse)
  | _ => ""

/-- Whether the suffix says that a file holds JSON, in upper or lower case. -/
def isJson (p : Path) : Bool := p.suffix.toList.map Char.toLower = ".json".toList

end Path

end Rewind
